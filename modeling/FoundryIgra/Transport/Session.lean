import FoundryIgra.Concurrency.Pool
import FoundryIgra.Store.TxMap
import FoundryIgra.Transport.Progress

/-!
# Sessions of concurrent requests

Any number of requests over one database file, each through its own transport, interleaved at
their calls. The environment raises the clock, chooses the clock readings (each at most the
clock, so a reading may be stale), the answers of the submitter and of the inner transport, and,
where failures are admitted, the failures of the store.

## Main definitions

* `RequestCall`: a request with its transport.
* `World`, `Oracle`, `machine`: the environment of the requests.
* `GrantedRound`, `Grants`: the acquisition rounds that take the lock, and what they write.
* `Session`: the reachable configurations of requests without store failures.
* `progress`: the progress of a request in a configuration.

## Main results

* `effect_cases`: what a call can do to the database.
* `effect_granted`: what a round that grants did.
* `Session.step_cases`: what a move can do.
-/

namespace FoundryIgra

open Rust Store Concurrency

/-- One call of `IgraTransport::request`. -/
structure RequestCall where
  transport : IgraTransport
  stamp : RequestStamp
  packet : RequestPacket

/-- The program of a request. -/
def RequestCall.program (lib : Externals) (c : RequestCall) :
    Request (Except TransportError ResponsePacket) :=
  c.transport.request lib c.stamp c.packet

/-- The tracked send of a request. -/
def RequestCall.tracked (lib : Externals) (c : RequestCall) : Option TrackedSend :=
  c.transport.tracked lib c.stamp c.packet

/-! ### The environment -/

/-- The database and the clock. -/
structure World where
  db : Db
  clock : ℕ

/-- What the environment decides about a call. -/
structure Oracle where
  now : UInt64
  classifyNow : UInt64
  submit : Except String IgraSubmitResult
  inner : Except TransportError ResponsePacket
  fault : Option IgraStoreError

/-- A transaction that only reports whether it succeeded. -/
def report (db : Db) : Except IgraStoreError Db → Except IgraStoreError Unit × Db
  | .ok db' => (.ok (), db')
  | .error err => (.error err, db)

/-- The answer of a call and the database it leaves, when the store does not fail. -/
def serve (o : Oracle) (db : Db) : (op : TransportOp) → op.Ans × Db
  | .innerCall _ => (o.inner, db)
  | .persist store update => (.ok (), persistTransition store db update o.now)
  | .startAcquire _ => (.ok o.now, db)
  | .pollLock t deadlineMs =>
    let r := pollSenderLockAndClassifyNonce t.store db t.sender t.lockOwnerId t.l2Nonce t.l2TxHash
      deadlineMs o.now o.classifyNow
    (⟨o.now, r.1⟩, r.2)
  | .enterSubmit _ => ((), db)
  | .leaveSubmit _ => (o.submit, db)
  | .markSubmitted _ sender nonce => report db (markSubmittedInOrderNonce db sender nonce o.now)
  | .release _ sender ownerId => (.ok (), releaseSenderLock db sender ownerId)

/-- The answer of a call whose store transaction fails with `err`. -/
def failWith (o : Oracle) (err : IgraStoreError) : (op : TransportOp) → op.Ans
  | .innerCall _ => o.inner
  | .persist _ _ => .error err
  | .startAcquire _ => .error err
  | .pollLock _ _ => ⟨o.now, .error err⟩
  | .enterSubmit _ => ()
  | .leaveSubmit _ => o.submit
  | .markSubmitted _ _ _ => .error err
  | .release _ _ _ => .error err

/-- The machine of the requests. A failure of the store, where `mayFail` admits one, is an SQLite
or I/O error, and leaves the database as it is. -/
def machine (mayFail : Bool) : Machine TransportOps World where
  Tick := ℕ
  tick t w := if w.clock ≤ t then some { w with clock := t } else none
  Oracle := Oracle
  answer o _ w op :=
    if o.now.toNat ≤ w.clock ∧ o.classifyNow.toNat ≤ w.clock then
      match o.fault with
      | none => some ((serve o w.db op).1, { w with db := (serve o w.db op).2 })
      | some err => if mayFail ∧ err.code = none then some (failWith o err op, w) else none
    else none

/-- What a call can do to the database at the clock value `clock`. -/
def Effect (clock : ℕ) (db db' : Db) : (op : TransportOp) → op.Ans → Prop
  | .persist store update, _ => ∃ now, db' = persistTransition store db update now
  | .pollLock t deadlineMs, a => a.now.toNat ≤ clock ∧ ∃ classifyNow,
      pollSenderLockAndClassifyNonce t.store db t.sender t.lockOwnerId t.l2Nonce t.l2TxHash
        deadlineMs a.now classifyNow = (a.result, db')
  | .markSubmitted _ sender nonce, _ =>
      db' = db ∨ ∃ now, markSubmittedInOrderNonce db sender nonce now = .ok db'
  | .release _ sender ownerId, _ => db' = releaseSenderLock db sender ownerId
  | _, _ => db' = db

/-- **What an answered call did**, without store failures. -/
theorem answer_cases {o : Oracle} {i : ℕ} {w w' : World} {op : TransportOp} {a : op.Ans}
    (h : (machine false).answer o i w op = some (a, w')) :
    w'.clock = w.clock ∧ Succeeds op a ∧ Effect w.clock w.db w'.db op a := by
  simp only [machine] at h
  split_ifs at h with hclock
  cases hf : o.fault with
  | some err => simp [hf] at h
  | none =>
    simp only [hf, Option.some.injEq, Prod.mk.injEq] at h
    obtain ⟨rfl, rfl⟩ := h
    refine ⟨rfl, ?_⟩
    cases op with
    | innerCall packet => exact ⟨trivial, rfl⟩
    | persist store update => exact ⟨rfl, o.now, rfl⟩
    | startAcquire store => exact ⟨⟨o.now, rfl⟩, rfl⟩
    | pollLock t deadlineMs =>
      refine ⟨?_, hclock.1, o.classifyNow, rfl⟩
      rintro err herr
      rcases pollSenderLockAndClassifyNonce_cases (Prod.ext herr rfl) with
        ⟨-, h | h | ⟨e, h⟩⟩ | ⟨ordering, h, -⟩
      · exact Or.inl (Except.error.inj h)
      · cases h
      · exact Or.inr ⟨e, Except.error.inj h⟩
      · cases h
    | enterSubmit request => exact ⟨trivial, rfl⟩
    | leaveSubmit request => exact ⟨trivial, rfl⟩
    | markSubmitted store sender nonce =>
      refine ⟨trivial, ?_⟩
      simp only [Effect, serve]
      cases hm : markSubmittedInOrderNonce w.db sender nonce o.now with
      | ok db' => exact Or.inr ⟨o.now, hm⟩
      | error err => exact Or.inl rfl
    | release store sender ownerId => exact ⟨trivial, rfl⟩

/-- The event is an acquisition round of `t` that grants, at the clock reading `now`. -/
def GrantedRound (t : TrackedSend) (now : UInt64) (e : TransportOps.Event) : Prop :=
  ∃ (deadlineMs : UInt64) (b : PollAnswer) (ordering : NonceOrdering),
    e = ⟨.pollLock t deadlineMs, b⟩ ∧ b.exit = some (.ok ordering) ∧ b.now = now

theorem GrantedRound.op_eq {t : TrackedSend} {now : UInt64} {op : TransportOp} {a : op.Ans}
    (h : GrantedRound t now ⟨op, a⟩) : ∃ deadlineMs, op = .pollLock t deadlineMs := by
  obtain ⟨deadlineMs, _, _, ⟨⟩, -, -⟩ := h
  exact ⟨deadlineMs, rfl⟩

/-- A granting round grants. -/
theorem GrantedRound.after {t : TrackedSend} {now : UInt64} {op : TransportOp} {a : op.Ans}
    (h : GrantedRound t now ⟨op, a⟩) (g : Progress) :
    ∃ ordering, g.after op a = { g with grant := some (now, ordering) } := by
  obtain ⟨_, _, ordering, ⟨⟩, hexit, rfl⟩ := h
  refine ⟨ordering, ?_⟩
  simp only [Progress.after, Progress.polled, hexit]

/-- No other call does. -/
theorem grant_after_of_not_granted {g : Progress} {op : TransportOp} {a : op.Ans}
    (h : ∀ t now, ¬GrantedRound t now ⟨op, a⟩) : (g.after op a).grant = g.grant := by
  rcases g.after_cases op a with heq | ⟨_, _, -, heq⟩ | ⟨t, d, b, ordering, hevent, hexit, -⟩ |
    ⟨_, -, heq⟩ | ⟨_, -, heq⟩ | ⟨_, _, -, heq⟩ | ⟨_, _, _, -, heq⟩
  case inr.inr.inl => exact absurd ⟨d, b, ordering, hevent, hexit, rfl⟩ (h t b.now)
  all_goals rw [heq]

/-- A grant is not taken back. -/
theorem grant_kept (g : Progress) (op : TransportOp) (a : op.Ans) (h : g.grant ≠ none) :
    (g.after op a).grant ≠ none := by
  by_cases hround : ∃ t now, GrantedRound t now ⟨op, a⟩
  · obtain ⟨t, now, hround⟩ := hround
    obtain ⟨ordering, heq⟩ := hround.after g
    exact heq ▸ Option.some_ne_none _
  · rw [grant_after_of_not_granted fun t now hr => hround ⟨t, now, hr⟩]
    exact h

/-- Only a release gives the lock back. -/
theorem released_after {g : Progress} {op : TransportOp} {a : op.Ans}
    (h : ∀ store s o, op ≠ .release store s o) : (g.after op a).released = g.released := by
  rcases g.after_cases op a with heq | ⟨_, _, -, heq⟩ | ⟨_, _, _, _, -, -, heq⟩ | ⟨_, -, heq⟩ |
    ⟨_, -, heq⟩ | ⟨_, _, -, heq⟩ | ⟨store, s, o, rfl, -⟩
  case inr.inr.inr.inr.inr.inr => exact absurd rfl (h store s o)
  all_goals rw [heq]

/-- A granting round wrote the lock row, and seeded the expected nonce if there was none. -/
def Grants (t : TrackedSend) (now : UInt64) (db db' : Db) : Prop :=
  db' = writeSenderLock db t.sender t.lockOwnerId now t.store.leaseMs ∨
    nextExpectedNonce db t.sender = none ∧ ∃ ms, db' = setNextExpectedNonce
      (writeSenderLock db t.sender t.lockOwnerId now t.store.leaseMs) t.sender t.l2Nonce ms

/-- **What a call can do to the database**: nothing, write a lifecycle record, take a lock, advance
an expected nonce, or release a lock. -/
theorem effect_cases {clock : ℕ} {db db' : Db} {op : TransportOp} {a : op.Ans}
    (heff : Effect clock db db' op a) :
    db' = db ∨
    (∃ store u now, op = .persist store u ∧ db' = persistTransition store db u now) ∨
    (∃ t now, GrantedRound t now ⟨op, a⟩ ∧ now.toNat ≤ clock ∧
      Lease.Admits (lockHolder db t.sender) t.lockOwnerId now.toNat ∧ Grants t now db db') ∨
    (∃ store sender nonce next ms, op = .markSubmitted store sender nonce ∧
      next.toNat = nonce.toNat + 1 ∧ (∀ e, nextExpectedNonce db sender = some e → e = nonce) ∧
      db' = setNextExpectedNonce db sender next ms) ∨
    ∃ store sender ownerId, op = .release store sender ownerId ∧
      db' = releaseSenderLock db sender ownerId := by
  cases op with
  | innerCall packet => exact Or.inl heff
  | persist store update =>
    obtain ⟨now, rfl⟩ := heff
    exact Or.inr (Or.inl ⟨store, update, now, rfl, rfl⟩)
  | startAcquire store => exact Or.inl heff
  | pollLock t deadlineMs =>
    obtain ⟨hnow, classifyNow, heff⟩ := heff
    rcases pollSenderLockAndClassifyNonce_cases heff with ⟨rfl, -⟩ | ⟨ordering, ho, hadmits, hcl⟩
    · exact Or.inl rfl
    · refine Or.inr (Or.inr (Or.inl ⟨t, PollAnswer.now a, ⟨deadlineMs, a, ordering, rfl,
        PollAnswer.exit_eq_ok.mpr ho, rfl⟩, hnow, hadmits, ?_⟩))
      obtain ⟨-, -, ⟨-, rfl⟩ | ⟨hnone, -, rfl⟩⟩ := classifyNonceInTx_cases hcl
      · exact Or.inl rfl
      · exact Or.inr ⟨hnone, classifyNow, rfl⟩
  | enterSubmit request => exact Or.inl heff
  | leaveSubmit request => exact Or.inl heff
  | markSubmitted store sender nonce =>
    rcases heff with rfl | ⟨now, hm⟩
    · exact Or.inl rfl
    · rcases markSubmittedInOrderNonce_cases hm with rfl | ⟨next, hnext, hcur, rfl⟩
      · exact Or.inl rfl
      · exact Or.inr (Or.inr (Or.inr (Or.inl
          ⟨store, sender, nonce, next, now, rfl, hnext, hcur, rfl⟩)))
  | release store sender ownerId =>
    exact Or.inr (Or.inr (Or.inr (Or.inr ⟨store, sender, ownerId, rfl, heff⟩)))

/-- **What a round that grants did**: it found the lock free or its own, and classified the nonce
under the lock. -/
theorem effect_granted {clock : ℕ} {db db' : Db} {t : TrackedSend} {deadlineMs : UInt64}
    {a : PollAnswer} (heff : Effect clock db db' (.pollLock t deadlineMs) a)
    {ordering : NonceOrdering} (ha : a.result = .ok (some ordering)) :
    a.now.toNat ≤ clock ∧ Lease.Admits (lockHolder db t.sender) t.lockOwnerId a.now.toNat ∧
      ∃ classifyNow, classifyNonceInTx
        (writeSenderLock db t.sender t.lockOwnerId a.now t.store.leaseMs) t.sender t.l2Nonce
        (some t.l2TxHash) classifyNow = .ok (ordering, db') := by
  obtain ⟨hnow, classifyNow, heff⟩ := heff
  rcases pollSenderLockAndClassifyNonce_cases heff with
    ⟨-, h | h | ⟨e, h⟩⟩ | ⟨o, ho, hadmits, hclassify⟩
  · cases ha.symm.trans h
  · cases ha.symm.trans h
  · cases ha.symm.trans h
  · obtain rfl := Option.some_inj.mp (Except.ok.inj (ha.symm.trans ho))
    exact ⟨hnow, hadmits, classifyNow, hclassify⟩

theorem Grants.tables {t : TrackedSend} {now : UInt64} {db db' : Db} (h : Grants t now db db') :
    db'.senderLocks =
        (writeSenderLock db t.sender t.lockOwnerId now t.store.leaseMs).senderLocks ∧
      db'.txMap = db.txMap ∧ db'.schemaMeta = db.schemaMeta := by
  rcases h with rfl | ⟨-, _, rfl⟩ <;> exact ⟨rfl, rfl, rfl⟩

/-! ### Sessions -/

/-- A configuration of requests. -/
abbrev SessionConf := Conf TransportOps World (Except TransportError ResponsePacket)

/-- What request `i` has done. -/
def progress (c : SessionConf) (i : ℕ) : Progress := c.ghost Progress.step Progress.start i

/-- `c` is reached by the requests `calls` from the world `w`, without store failures. -/
def Session (lib : Externals) (calls : ℕ → RequestCall) (w : World) (c : SessionConf) : Prop :=
  Reachable (machine false) (fun i => (calls i).program lib) w c

section Sessions

variable {lib : Externals} {calls : ℕ → RequestCall} {w : World} {c c' : SessionConf}

theorem machine_succeeds (o : (machine false).Oracle) (i : ℕ) (w : World) (op : TransportOps.Op)
    (a : TransportOps.Ans op) (w' : World) (h : (machine false).answer o i w op = some (a, w')) :
    (fun e : TransportOps.Event => Succeeds e.1 e.2) ⟨op, a⟩ :=
  (answer_cases h).2.1

/-- The assertion at the pending call of a request. -/
theorem Session.pending (h : Session lib calls w c) {i : ℕ} {op : TransportOp}
    (ho : (c.thread i).status = .inl op) :
    CallInvariant ((calls i).tracked lib) (progress c i) op :=
  Reachable.pending h machine_succeeds (holds_request (calls i).stamp (calls i).packet) ho

/-- The assertion at the return of a request. -/
theorem Session.returned (h : Session lib calls w c) {i : ℕ}
    {result : Except TransportError ResponsePacket} (hr : (c.thread i).status = .inr result) :
    ReturnInvariant ((calls i).tracked lib) result (progress c i) :=
  Reachable.returned h machine_succeeds (holds_request (calls i).stamp (calls i).packet) hr

/-- A call of request `i` was answered. -/
structure Answered (lib : Externals) (calls : ℕ → RequestCall) (c : SessionConf) (i : ℕ)
    (op : TransportOp) (a : op.Ans) (w' : World) : Prop where
  clock : w'.clock = c.world.clock
  effect : Effect c.world.clock c.world.db w'.db op a
  succeeds : Succeeds op a
  invariant : CallInvariant ((calls i).tracked lib) (progress c i) op

/-- **What a move can do.** It raises the clock, or answers a call of one request. -/
theorem Session.step_cases {m : Move (machine false)} (h : Session lib calls w c)
    (hm : c.move (machine false) m = some c') :
    (∃ t, c.world.clock ≤ t ∧ c' = { c with world := { c.world with clock := t } }) ∨
      ∃ i op k a w', c.thread i = .call op k ∧ c' = c.attempt i op k a w' ∧
        Answered lib calls c i op a w' := by
  rcases Conf.move_cases hm with ⟨t, w', ht, rfl⟩ | ⟨i, o, op, k, a, w', hi, ha, rfl⟩
  · left
    simp only [machine] at ht
    split_ifs at ht with hle
    exact ⟨t, hle, by rw [← Option.some_inj.mp ht]⟩
  · right
    obtain ⟨hclock, hsucc, heffect⟩ := answer_cases ha
    exact ⟨i, op, k, a, w', hi, rfl, hclock, heffect, hsucc, h.pending (by rw [hi]; rfl)⟩

theorem progress_attempt (c : SessionConf) (i j : ℕ) (op : TransportOp)
    (k : op.Out → Request (Except TransportError ResponsePacket)) (a : op.Ans) (w' : World) :
    progress (c.attempt i op k a w') j =
      if i = j then (progress c j).after op a else progress c j :=
  Conf.ghost_attempt ..

end Sessions

/-! ### A session of one transaction

Two requests for one short legacy transaction, made by one process. The hash function is given at
the texts that are hashed. -/

section Sample

/-- A signed legacy transaction with empty fields. -/
def sampleRawTx : List UInt8 := [0xc9, 0x80, 0x80, 0x80, 0x80, 0x80, 0x80, 0x1b, 0x01, 0x01]

/-- Its hash. -/
def sampleHash : String := "0x63c02180d526dc113f851f824daa303bcfa24ea8561204a6746bc6cd7e792864"

/-- Its signer. -/
def sampleSender : String := "0x2c09342ed118a8518cd5b21bea6b258da862e26a"

/-- The hash function at the texts of the session. -/
def sampleKeccak256 (bytes : List UInt8) : List UInt8 :=
  if bytes = sampleRawTx then
    [0x63, 0xc0, 0x21, 0x80, 0xd5, 0x26, 0xdc, 0x11, 0x3f, 0x85, 0x1f, 0x82, 0x4d, 0xaa, 0x30, 0x3b,
      0xcf, 0xa2, 0x4e, 0xa8, 0x56, 0x12, 0x04, 0xa6, 0x74, 0x6b, 0xc6, 0xcd, 0x7e, 0x79, 0x28, 0x64]
  else if bytes = utf8 (sampleHash ++ ":1700000000000:4242:1") then
    [0x48, 0xa1, 0xf3, 0x06, 0x14, 0xa8, 0xc1, 0x3e, 0xca, 0x3f, 0x12, 0x7b, 0x5f, 0x86, 0x33, 0xea,
      0x28, 0x76, 0x72, 0x58, 0x5b, 0x9b, 0xf5, 0x7f, 0x94, 0x00, 0xaf, 0x2e, 0xb5, 0x87, 0xc4, 0xad]
  else if bytes = utf8 (sampleHash ++ ":1700000002001:4242:2") then
    [0x3e, 0x96, 0x3e, 0x4e, 0x5d, 0xcb, 0xca, 0xd5, 0x06, 0x5d, 0xf5, 0xf2, 0x63, 0x2f, 0xe9, 0xcf,
      0x33, 0x48, 0x89, 0x1f, 0xe3, 0xef, 0x66, 0xe4, 0xca, 0xd3, 0x7b, 0x4f, 0xf0, 0xcc, 0x6b, 0x7b]
  else []

/-- The libraries at the inputs of the session. -/
def sampleExternals : Externals where
  TxEnvelope := Unit
  keccak256 := sampleKeccak256
  parseParams raw :=
    if raw = "[\"0xc98080808080801b0101\"]" then .ok [.string "0xc98080808080801b0101"]
    else .error "expected value at line 1 column 1"
  hexDecode := decodeHexDigits
  decode2718 bytes := if bytes = sampleRawTx then .ok ((), []) else .error "unexpected type flag"
  recoverSigner _ := .ok sampleSender
  nonce _ := 0
  serializeRequest method id := .ok ⟨method, id, none⟩
  rawJsonString s := .ok ("\"" ++ s ++ "\"")

/-- A transport with a store whose sender lock times out after one second. -/
def sampleTransport : IgraTransport where
  enabled := true
  store := some oneSecondStore
  txIdPrefix := some "97b1"
  miningTimeoutSecs := 120
  kaspaRpcUrl := some "grpc://127.0.0.1:16110"
  kaspaNetwork := some "testnet-10"
  payloadCompression := none
  kaspaWallet := .default

/-- A request to send the transaction. -/
def sampleCall (stamp : RequestStamp) : RequestCall where
  transport := sampleTransport
  stamp := stamp
  packet := .single ⟨"eth_sendRawTransaction", .number 1, some "[\"0xc98080808080801b0101\"]"⟩

/-- A request that does not concern the store. -/
def idleCall : RequestCall where
  transport := .new false
  stamp := ⟨1700000000000, 4242, 0⟩
  packet := .batch []

/-- The session: the transaction is sent twice. -/
def sampleCalls : ℕ → RequestCall
  | 0 => sampleCall ⟨1700000000000, 4242, 1⟩
  | 1 => sampleCall ⟨1700000002001, 4242, 2⟩
  | _ => idleCall

/-- The tracked send of a request of the session. -/
def sampleTracked (correlationId : String) : TrackedSend where
  store := oneSecondStore
  l2TxHash := sampleHash
  sender := sampleSender
  l2Nonce := 0
  correlationId := correlationId
  lockOwnerId := sampleSender ++ ":0:" ++ correlationId

theorem tracked_sampleCalls_zero : (sampleCalls 0).tracked sampleExternals =
    some (sampleTracked "1700000000000-4242-1-48a1f306") := by decide +kernel

theorem tracked_sampleCalls_one : (sampleCalls 1).tracked sampleExternals =
    some (sampleTracked "1700000002001-4242-2-3e963e4e") := by decide +kernel

theorem tracked_sampleCalls_idle (i : ℕ) : (sampleCalls (i + 2)).tracked sampleExternals = none := by
  show idleCall.tracked sampleExternals = none
  decide +kernel

/-- The environment at the reading `now`: the submitter answers `submit`. -/
def sampleOracle (now : UInt64) (submit : Except String IgraSubmitResult) : Oracle where
  now := now
  classifyNow := now
  submit := submit
  inner := .error "not called"
  fault := none

/-- The next `n` calls of request `i`, at the reading `now`. -/
def sampleMoves (i n : ℕ) (now : UInt64) (submit : Except String IgraSubmitResult) :
    List (Move (machine false)) :=
  List.replicate n (.run i (sampleOracle now submit))

/-- A result of the submitter. -/
def sampleResult : IgraSubmitResult where
  kaspaTxId := "97b1000000000000000000000000000000000000000000000000000000000001"
  payloadNonce := 7

/-- The session before any call. -/
def sampleWorld : World := ⟨Db.empty, 1700000000000⟩

/-- The configuration that a schedule leads to. -/
theorem exists_session_of_any (lib : Externals) (calls : ℕ → RequestCall) (w : World)
    (ms : List (Move (machine false))) (P : SessionConf → Bool)
    (h : ((Conf.start (fun i => (calls i).program lib) w).play (machine false) ms).any P = true) :
    ∃ c, Session lib calls w c ∧ P c = true := by
  obtain ⟨c, hc, hP⟩ := (Option.any_eq_true ..).mp h
  exact ⟨c, ⟨ms, hc⟩, hP⟩

end Sample

end FoundryIgra
