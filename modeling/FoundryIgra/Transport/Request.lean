import FoundryIgra.Concurrency.Program
import FoundryIgra.Store.SenderLocks
import FoundryIgra.Transport.Packet

/-!
# Requests as programs

`IgraTransport::request` (`transport.rs`) as a program over the calls it makes: the inner
transport, the transactions of the store and the submitter. The asynchronous body is
`sendRawTransaction`; `submit` is its part from the unsigned record on, `finish` its tail. The
blocking tasks are taken not to panic.

One round of `acquire_sender_lock_and_classify_nonce` is one call `pollLock` that polls: the round
is repeated while the lock is taken or the database is busy.

## Main definitions

* `TransportOps`: the calls, as an `Interface`.
* `TrackedSend`, `RequestStamp`, `buildCorrelationId`, `buildLockOwnerId`, `trackedSend`.
* `acquire`, `submit`, `sendRawTransaction`, `finish`, `IgraTransport.request`.
-/

namespace FoundryIgra

open Rust Store Concurrency

/-! ### Tracked sends -/

/-- What a request reads when it is made: the clock, the process id, the request counter. -/
structure RequestStamp where
  millis : UInt64
  pid : UInt32
  counter : UInt64
  deriving DecidableEq

/-- A raw send that is tracked in a store. -/
structure TrackedSend where
  store : IgraStore
  l2TxHash : String
  sender : String
  l2Nonce : UInt64
  correlationId : String
  lockOwnerId : String
  deriving DecidableEq

/-- `build_correlation_id`. -/
def buildCorrelationId (lib : Externals) (l2TxHash : String) (stamp : RequestStamp) : String :=
  let millis := toString stamp.millis
  let pid := toString stamp.pid
  let counter := toString stamp.counter
  let entropy := l2TxHash ++ ":" ++ millis ++ ":" ++ pid ++ ":" ++ counter
  let digest := hexEncode (lib.keccak256 (utf8 entropy))
  let randomHex := String.ofList (digest.toList.take 8)
  millis ++ "-" ++ pid ++ "-" ++ counter ++ "-" ++ randomHex

/-- `build_lock_owner_id`. -/
def buildLockOwnerId (sender : String) (nonce : UInt64) (correlationId : String) : String :=
  sender ++ ":" ++ toString nonce ++ ":" ++ correlationId

/-- `tracked_send`. -/
def IgraTransport.trackedSend (self : IgraTransport) (lib : Externals) (metadata : RawTxMetadata)
    (stamp : RequestStamp) : Option TrackedSend := do
  let store ← self.store
  let sender ← metadata.sender
  let nonce ← metadata.nonce
  let correlationId := buildCorrelationId lib metadata.l2TxHash stamp
  some
    { store := store
      l2TxHash := metadata.l2TxHash
      sender := sender
      l2Nonce := nonce
      correlationId := correlationId
      lockOwnerId := buildLockOwnerId sender nonce correlationId }

theorem exists_of_trackedSend {self : IgraTransport} {lib : Externals} {metadata : RawTxMetadata}
    {stamp : RequestStamp} {t : TrackedSend} (h : self.trackedSend lib metadata stamp = some t) :
    t.l2TxHash = metadata.l2TxHash ∧ metadata.sender = some t.sender ∧
      t.lockOwnerId = buildLockOwnerId t.sender t.l2Nonce
        (buildCorrelationId lib metadata.l2TxHash stamp) := by
  simp only [IgraTransport.trackedSend, Option.bind_eq_bind, Option.bind_eq_some_iff] at h
  obtain ⟨store, -, sender, hsender, nonce, -, ht⟩ := h
  obtain rfl := Option.some_inj.mp ht
  exact ⟨rfl, hsender, rfl⟩

/-! ### The calls -/

/-- The calls of a request. -/
inductive TransportOp
  /-- `inner.call(packet)`. -/
  | innerCall (packet : RequestPacket)
  /-- `store.persist_transition(update)`. -/
  | persist (store : IgraStore) (update : TxLifecycleUpdate)
  /-- The start of the acquisition: its clock reading. -/
  | startAcquire (store : IgraStore)
  /-- One round of the acquisition loop. -/
  | pollLock (tracked : TrackedSend) (deadlineMs : UInt64)
  /-- The call of `submitter.submit_payload`. -/
  | enterSubmit (request : IgraSubmitRequest)
  /-- Its return. -/
  | leaveSubmit (request : IgraSubmitRequest)
  /-- `store.mark_submitted_in_order_nonce(sender, nonce)`. -/
  | markSubmitted (store : IgraStore) (sender : String) (nonce : UInt64)
  /-- `store.release_sender_lock(sender, owner_id)`. -/
  | release (store : IgraStore) (sender ownerId : String)
  deriving DecidableEq

/-- The answer of one acquisition round: its clock reading and what the attempt returned. -/
structure PollAnswer where
  now : UInt64
  result : Except IgraStoreError (Option NonceOrdering)

/-- The raw answers. -/
def TransportOp.Ans : TransportOp → Type
  | innerCall _ => Except TransportError ResponsePacket
  | persist _ _ => Except IgraStoreError Unit
  | startAcquire _ => Except IgraStoreError UInt64
  | pollLock _ _ => PollAnswer
  | enterSubmit _ => Unit
  | leaveSubmit _ => Except String IgraSubmitResult
  | markSubmitted _ _ _ => Except IgraStoreError Unit
  | release _ _ _ => Except IgraStoreError Unit

/-- What the program continues with. -/
def TransportOp.Out : TransportOp → Type
  | pollLock _ _ => Except IgraStoreError NonceOrdering
  | op => op.Ans

/-- The outcome of an acquisition round; the loop goes on while the lock is taken or the database
is busy. -/
def PollAnswer.exit (a : PollAnswer) : Option (Except IgraStoreError NonceOrdering) :=
  match a.result with
  | .ok (some ordering) => some (.ok ordering)
  | .ok none => none
  | .error err => if err.isRetryableBusyError then none else some (.error err)

theorem PollAnswer.exit_eq_ok {a : PollAnswer} {ordering : NonceOrdering} :
    a.exit = some (.ok ordering) ↔ a.result = .ok (some ordering) := by
  obtain ⟨now, result⟩ := a
  simp only [PollAnswer.exit]
  match result with
  | .ok (some o) => simp
  | .ok none => simp
  | .error err =>
    simp only [reduceCtorEq, iff_false]
    split_ifs <;> simp

theorem PollAnswer.exit_eq_error {a : PollAnswer} {err : IgraStoreError} :
    a.exit = some (.error err) ↔ a.result = .error err ∧ err.isRetryableBusyError = false := by
  obtain ⟨now, result⟩ := a
  simp only [PollAnswer.exit]
  match result with
  | .ok (some o) => simp
  | .ok none => simp
  | .error err' =>
    by_cases hbusy : err'.isRetryableBusyError = true
    · simp only [hbusy, if_true, reduceCtorEq, Except.error.injEq, false_iff, not_and]
      rintro rfl
      simp [hbusy]
    · simp only [hbusy, if_false, Option.some.injEq, Except.error.injEq, Bool.false_eq_true]
      constructor
      · rintro rfl
        exact ⟨rfl, by simpa using hbusy⟩
      · exact And.left

/-- The calls of a request; only acquisition rounds poll. -/
@[reducible] def TransportOps : Interface where
  Op := TransportOp
  Ans := TransportOp.Ans
  Out := TransportOp.Out
  exit
    | .innerCall _, a => some a
    | .persist _ _, a => some a
    | .startAcquire _, a => some a
    | .pollLock _ _, a => PollAnswer.exit a
    | .enterSubmit _, a => some a
    | .leaveSubmit _, a => some a
    | .markSubmitted _ _ _, a => some a
    | .release _ _ _, a => some a

/-- Programs over the calls of a request. -/
abbrev Request (α : Type) : Type := Program TransportOps α

/-- A call of a request. -/
def call (op : TransportOp) : Request op.Out := Program.perform (I := TransportOps) op

/-! ### The body -/

/-- The update that `persist_transition_safe` writes. -/
def TrackedSend.update (tracked : TrackedSend) (state : TxLifecycleState)
    (payloadNonce : Option UInt64) (kaspaTxId lastErrorCode lastErrorMessage : Option String)
    (incrementAttempts : Bool) : TxLifecycleUpdate where
  l2TxHash := tracked.l2TxHash
  sender := tracked.sender
  l2Nonce := tracked.l2Nonce
  payloadNonce := payloadNonce
  kaspaTxId := kaspaTxId
  state := state
  correlationId := tracked.correlationId
  lastErrorCode := lastErrorCode
  lastErrorMessage := lastErrorMessage
  incrementAttempts := incrementAttempts

/-- `persist_transition_safe`: a failure is logged and ignored. -/
def persistTransitionSafe (tracked : TrackedSend) (state : TxLifecycleState)
    (payloadNonce : Option UInt64) (kaspaTxId lastErrorCode lastErrorMessage : Option String)
    (incrementAttempts : Bool) : Request Unit := do
  let _ ← call (.persist tracked.store (tracked.update state payloadNonce kaspaTxId lastErrorCode
    lastErrorMessage incrementAttempts))
  pure ()

/-- `acquire_sender_lock_and_classify_nonce`: the deadline, then the rounds. -/
def acquire (tracked : TrackedSend) : Request (Except IgraStoreError NonceOrdering) := do
  match ← call (.startAcquire tracked.store) with
  | .error err => pure (.error err)
  | .ok now => call (.pollLock tracked (saturatingAdd now tracked.store.timeoutMs))

/-- What is observed about a stale nonce that replaces another transaction: an error code and a
message. -/
abbrev ReplacementObservation := Option (String × String)

/-- The message of a replacement observation. -/
def replacementMessage (tracked : TrackedSend) : String :=
  "stale nonce replacement candidate for sender " ++ tracked.sender ++ " nonce " ++
    toString tracked.l2Nonce ++ " tx " ++ tracked.l2TxHash

/-- The observation of a classification. -/
def replacementObservation (tracked : TrackedSend) (ordering : NonceOrdering) :
    ReplacementObservation :=
  match ordering with
  | .stale _ true => some (igraNonceReplacementCandidateErrorCode, replacementMessage tracked)
  | _ => none

/-- Records an observation. -/
def recordObservation (tracked : TrackedSend) (observation : ReplacementObservation) :
    Request Unit :=
  match observation with
  | some (code, message) =>
    persistTransitionSafe tracked .staleReplacementCandidate none none (some code) (some message)
      false
  | none => pure ()

/-- `success_l2_tx_hash_response`. -/
def successL2TxHashResponse (lib : Externals) (id : Id) (l2TxHash : String) :
    Except TransportError ResponsePacket :=
  match lib.rawJsonString l2TxHash with
  | .ok payload => .ok (.single ⟨id, .success payload⟩)
  | .error err => .error ("failed to serialize IGRA response payload: " ++ err)

/-- The three records of a submission, and the advance of the expected nonce. -/
def recordSubmission (tracked : TrackedSend) (inOrderSubmit : Bool)
    (observation : ReplacementObservation) (result : IgraSubmitResult) : Request Unit := do
  let code := observation.map Prod.fst
  let message := observation.map Prod.snd
  persistTransitionSafe tracked .kaspaPrefixMined (some result.payloadNonce) none code message false
  persistTransitionSafe tracked .kaspaSigned (some result.payloadNonce) none code message false
  persistTransitionSafe tracked .kaspaBroadcasted (some result.payloadNonce)
    (some result.kaspaTxId) code message false
  if inOrderSubmit then
    let _ ← call (.markSubmitted tracked.store tracked.sender tracked.l2Nonce)
    pure ()
  else pure ()

/-- An action on the tracked send, if the send is tracked. -/
def forTracked (tracked : Option TrackedSend) (f : TrackedSend → Request Unit) : Request Unit :=
  match tracked with
  | some tracked => f tracked
  | none => pure ()

/-- The body from the unsigned record on. -/
def submit (lib : Externals) (self : IgraTransport) (rawSend : RawSendRequest)
    (txIdPrefix : String) (tracked : Option TrackedSend) (inOrderSubmit : Bool)
    (observation : ReplacementObservation) :
    Request (Except TransportError ResponsePacket) := do
  forTracked tracked fun tracked =>
    persistTransitionSafe tracked .kaspaUnsignedCreated none none (observation.map Prod.fst)
      (observation.map Prod.snd) false
  let request := self.submitRequest rawSend.metadata.l2TxHash rawSend.rawTx txIdPrefix
  call (.enterSubmit request)
  match ← call (.leaveSubmit request) with
  | .error err => pure (.error err)
  | .ok result => do
    forTracked tracked fun tracked => recordSubmission tracked inOrderSubmit observation result
    pure (successL2TxHashResponse lib rawSend.id rawSend.metadata.l2TxHash)

/-- The inner block: whether the sender lock was acquired, and the result. -/
def sendRawTransaction (lib : Externals) (self : IgraTransport) (rawSend : RawSendRequest)
    (tracked : Option TrackedSend) : Request (Bool × Except TransportError ResponsePacket) :=
  match self.txIdPrefix with
  | none => pure (false, .error "IGRA config error: `tx_id_prefix` is required")
  | some txIdPrefix =>
    match tracked with
    | none => do
      let result ← submit lib self rawSend txIdPrefix none false none
      pure (false, result)
    | some tracked => do
      persistTransitionSafe tracked .receivedRawL2 none none none none false
      match ← acquire tracked with
      | .ok ordering => do
        let observation := replacementObservation tracked ordering
        recordObservation tracked observation
        let inOrderSubmit := match ordering with
          | .inOrder _ => true
          | .stale _ _ => false
        let result ← submit lib self rawSend txIdPrefix (some tracked) inOrderSubmit observation
        pure (true, result)
      | .error (.lockTimeout sender) => do
        let err := IgraStoreError.lockTimeout sender
        persistTransitionSafe tracked .blockedLockTimeout none none err.code (some err.toText) false
        pure (false, .error err.toText)
      | .error (.blockedNonceGap expected got) => do
        let err := IgraStoreError.blockedNonceGap expected got
        persistTransitionSafe tracked .blockedNonceGap none none (some igraNonceGapErrorCode)
          (some err.toText) false
        pure (false, .error err.toText)
      | .error _ => do
        -- any other store error is logged, and the send goes on without the lock
        let result ← submit lib self rawSend txIdPrefix (some tracked) false none
        pure (false, result)

/-- The code that a failure is recorded with. -/
def failureCode (errText : String) : Option String :=
  if contains errText igraMiningTimeoutErrorCode then some igraMiningTimeoutErrorCode else none

/-- The tail: a failure is recorded, an acquired lock is released. -/
def finish (tracked : Option TrackedSend)
    (outcome : Bool × Except TransportError ResponsePacket) :
    Request (Except TransportError ResponsePacket) := do
  forTracked tracked fun tracked => do
    match outcome.2 with
    | .error errText =>
      persistTransitionSafe tracked .failedRecoverable none none (failureCode errText)
        (some errText) true
    | .ok _ => pure ()
    if outcome.1 then
      let _ ← call (.release tracked.store tracked.sender tracked.lockOwnerId)
      pure ()
    else pure ()
  pure outcome.2

/-- `IgraTransport::request`. -/
def IgraTransport.request (lib : Externals) (self : IgraTransport) (stamp : RequestStamp)
    (packet : RequestPacket) : Request (Except TransportError ResponsePacket) :=
  match self.route lib packet with
  | .forward packet => call (.innerCall packet)
  | .reject reason => pure (.error reason)
  | .send rawSend => do
    let tracked := self.trackedSend lib rawSend.metadata stamp
    let outcome ← sendRawTransaction lib self rawSend tracked
    finish tracked outcome

/-- The tracked send of a request, if it is one. -/
def IgraTransport.tracked (lib : Externals) (self : IgraTransport) (stamp : RequestStamp)
    (packet : RequestPacket) : Option TrackedSend :=
  match self.route lib packet with
  | .send rawSend => self.trackedSend lib rawSend.metadata stamp
  | _ => none

end FoundryIgra
