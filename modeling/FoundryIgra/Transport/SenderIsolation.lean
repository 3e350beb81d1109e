import FoundryIgra.Concurrency.Unwinding
import FoundryIgra.Store.SenderView
import FoundryIgra.Transport.Deployment

/-!
# Senders do not disturb each other

Requests of all senders share one database file. Those of one sender do exactly what they would do
if no request of another sender was made: the same calls with the same answers, to the same expected
nonce, lock and records. This holds whatever fails and whoever else opens and prunes the file.

## Main definitions

* `OfSender`, `TellsSender`: the requests and the hashes of a sender.
* `Concerns`: the calls of a request concern its tracked send only.
* `RunsAlone`: a run of the requests of one sender, with what they see of another run.

## Main results

* `hashesTellSenders_of_injective`: no collision of the hash, and a hash tells its sender.
* `unwinding_deployment`: one move of a deployment.
* `runsAlone_sender`: every run has a run of the requests of one sender alone.
-/

namespace FoundryIgra

open Rust Store Concurrency

section Isolation

variable {lib : Externals} {calls : ℕ → RequestCall} {mayFail : Bool} {opens : IgraStore → Bool}
  {w : World} {c : SessionConf} {sender : String}

/-- Request `i` is tracked, for the sender. -/
def OfSender (lib : Externals) (calls : ℕ → RequestCall) (sender : String) (i : ℕ) : Prop :=
  ((calls i).tracked lib).map TrackedSend.sender = some sender

instance (lib : Externals) (calls : ℕ → RequestCall) (sender : String) :
    DecidablePred (OfSender lib calls sender) := fun i =>
  inferInstanceAs (Decidable (((calls i).tracked lib).map TrackedSend.sender = some sender))

/-- A tracked request for a hash has the sender. -/
def TellsSender (lib : Externals) (calls : ℕ → RequestCall) (hash sender : String) : Prop :=
  ∃ i t, (calls i).tracked lib = some t ∧ t.l2TxHash = hash ∧ t.sender = sender

/-- Tracked requests for one hash have one sender. -/
def HashesTellSenders (lib : Externals) (calls : ℕ → RequestCall) : Prop :=
  ∀ hash s s', TellsSender lib calls hash s → TellsSender lib calls hash s' → s = s'

theorem ofSender_iff {i : ℕ} {t : TrackedSend} (ht : (calls i).tracked lib = some t) :
    OfSender lib calls sender i ↔ t.sender = sender := by
  rw [OfSender, ht, Option.map_some, Option.some_inj]

/-- The hash and the sender of a tracked request come from one raw transaction. -/
theorem exists_rawTx_of_tracked {self : IgraTransport} {stamp : RequestStamp}
    {packet : RequestPacket} {t : TrackedSend} (h : self.tracked lib stamp packet = some t) :
    ∃ rawTx tx rest, t.l2TxHash = "0x" ++ hexEncode (lib.keccak256 rawTx) ∧
      lib.decode2718 rawTx = .ok (tx, rest) ∧ lib.recoverSigner tx = .ok t.sender := by
  rw [IgraTransport.tracked] at h
  split at h
  next rawSend hroute =>
    obtain ⟨hhash, hsender, -⟩ := exists_of_trackedSend h
    obtain ⟨-, hraw⟩ := IgraTransport.route_eq_send_iff.mp hroute
    obtain ⟨-, -, -, -, -, -, -, -, hmeta⟩ := rawSendRequest_eq_some hraw
    obtain ⟨tx, rest, s, hdecode, hsigner, hmeta⟩ := rawTxMetadataFromRawTx_eq_ok hmeta
    rw [hmeta] at hsender hhash
    obtain rfl := Option.some_inj.mp hsender
    exact ⟨rawSend.rawTx, tx, rest, hhash, hdecode, hsigner⟩
  next => cases h

/-- **Without collisions of the hash function a hash tells its sender.** -/
theorem hashesTellSenders_of_injective (hinj : Function.Injective lib.keccak256) :
    HashesTellSenders lib calls := by
  rintro hash _ _ ⟨i, t, ht, hhash, rfl⟩ ⟨j, t', ht', hhash', rfl⟩
  obtain ⟨rawTx, tx, rest, htext, hdecode, hsigner⟩ := exists_rawTx_of_tracked ht
  obtain ⟨rawTx', tx', rest', htext', hdecode', hsigner'⟩ := exists_rawTx_of_tracked ht'
  have htexts : "0x" ++ hexEncode (lib.keccak256 rawTx) =
      "0x" ++ hexEncode (lib.keccak256 rawTx') := by
    rw [← htext, ← htext', hhash, hhash']
  have hlists := congrArg String.toList htexts
  rw [String.toList_append, String.toList_append, List.append_right_inj] at hlists
  obtain rfl := hinj (hexEncode_inj (String.toList_inj.mp hlists))
  obtain ⟨rfl, -⟩ := Prod.mk.inj (Except.ok.inj (hdecode.symm.trans hdecode'))
  exact Except.ok.inj (hsigner.symm.trans hsigner')

/-! ### The calls of a request -/

/-- The call concerns the tracked send, or no store. -/
def Concerns (tracked : Option TrackedSend) : TransportOp → Prop
  | .persist _ u => ∃ t, tracked = some t ∧ u.l2TxHash = t.l2TxHash ∧ u.sender = t.sender
  | .pollLock t _ => tracked = some t
  | .markSubmitted _ s _ => ∃ t, tracked = some t ∧ s = t.sender
  | .release _ s _ => ∃ t, tracked = some t ∧ s = t.sender
  | _ => True

theorem concerns_of_invariant {tracked : Option TrackedSend} {g : Course} {op : TransportOp}
    (h : CourseInvariant tracked g op) : Concerns tracked op := by
  cases tracked with
  | none =>
    cases op with
    | persist store u => exact h.elim
    | pollLock t deadlineMs => exact h.elim
    | markSubmitted store s nonce => exact h.elim
    | release store s ownerId => exact h.elim
    | _ => trivial
  | some t =>
    cases op with
    | persist store u => exact ⟨t, rfl, h.2.1.l2TxHash, h.2.1.sender⟩
    | pollLock t' deadlineMs => exact congrArg some h.1.symm
    | markSubmitted store s nonce => exact ⟨t, rfl, h.2.1⟩
    | release store s ownerId => exact ⟨t, rfl, h.2.1⟩
    | _ => trivial

/-- Every call of a request concerns its tracked send, or no store. -/
theorem concerns_of_trace {i : ℕ} {es : List TransportOps.Event} {op : TransportOp}
    {k : op.Out → Request (Except TransportError ResponsePacket)}
    (h : Program.Trace ((calls i).program lib) es (.call op k)) :
    Concerns ((calls i).tracked lib) op := by
  have hwp := Program.Trace.wp (always_request_any (calls i).stamp (calls i).packet) h
    fun _ _ => trivial
  exact concerns_of_invariant ((Program.wp_status hwp).1 op rfl)

/-! ### One move -/

/-- The worlds agree on the clock and on what the sender sees. -/
structure SameWorld (lib : Externals) (calls : ℕ → RequestCall) (sender : String)
    (v w : World) : Prop where
  clock : w.clock = v.clock
  db : SameFor (TellsSender lib calls) sender v.db w.db

/-- A call of the sender is served alike. -/
theorem serve_own (hfun : HashesTellSenders lib calls) {db db' : Db}
    (h : SameFor (TellsSender lib calls) sender db db') {i : ℕ}
    (hi : OfSender lib calls sender i) {op : TransportOp}
    (hop : Concerns ((calls i).tracked lib) op) (o : Oracle) :
    (serve o db' op).1 = (serve o db op).1 ∧
      SameFor (TellsSender lib calls) sender (serve o db op).2 (serve o db' op).2 := by
  cases op with
  | persist store u =>
    obtain ⟨t, ht, hhash, hu⟩ := hop
    exact ⟨rfl, h.persist hfun ⟨i, t, ht, hhash.symm, hu.symm⟩ (hu.trans ((ofSender_iff ht).mp hi))⟩
  | pollLock t deadlineMs =>
    obtain rfl := (ofSender_iff hop).mp hi
    obtain ⟨hresult, hdb⟩ := h.poll t.store t.lockOwnerId t.l2Nonce t.l2TxHash deadlineMs o.now
      o.classifyNow
    exact ⟨congrArg (PollAnswer.mk o.now) hresult, hdb⟩
  | markSubmitted store s nonce =>
    obtain ⟨t, ht, rfl⟩ := hop
    obtain rfl := (ofSender_iff ht).mp hi
    simp only [serve]
    rcases h.mark nonce o.now with ⟨d, d', hx, hx', hd⟩ | ⟨e, hx, hx'⟩
    · rw [hx, hx']
      exact ⟨rfl, hd⟩
    · rw [hx, hx']
      exact ⟨rfl, h⟩
  | release store s ownerId =>
    obtain ⟨t, ht, rfl⟩ := hop
    obtain rfl := (ofSender_iff ht).mp hi
    exact ⟨rfl, h.release ownerId⟩
  | _ => exact ⟨rfl, h⟩

/-- A call of another sender, or of a request that is not tracked. -/
theorem serve_other (hfun : HashesTellSenders lib calls) {db db' : Db}
    (h : SameFor (TellsSender lib calls) sender db db') {i : ℕ}
    (hi : ¬OfSender lib calls sender i) {op : TransportOp} {clock : ℕ} {d : Db} {a : op.Ans}
    (hop : Concerns ((calls i).tracked lib) op) (heff : Effect clock db d op a) :
    SameFor (TellsSender lib calls) sender d db' := by
  have hne : ∀ {t}, (calls i).tracked lib = some t → t.sender ≠ sender :=
    fun ht heq => hi ((ofSender_iff ht).mpr heq)
  rcases effect_cases heff with rfl | ⟨store, u, now, rfl, rfl⟩ | ⟨t, now, hround, -, -, hgrants⟩ |
    ⟨store, s, nonce, next, ms, rfl, -, -, rfl⟩ | ⟨store, s, ownerId, rfl, rfl⟩
  · exact h
  · obtain ⟨t, ht, hhash, hu⟩ := hop
    exact h.persist_other hfun ⟨i, t, ht, hhash.symm, hu.symm⟩ (hu ▸ hne ht)
  · obtain ⟨deadlineMs, rfl⟩ := hround.op_eq
    have hwrite := h.writeLock_other (hne hop) t.lockOwnerId now t.store.leaseMs
    rcases hgrants with rfl | ⟨-, ms, rfl⟩
    · exact hwrite
    · exact hwrite.setNonce_other (hne hop) t.l2Nonce ms
  · obtain ⟨t, ht, rfl⟩ := hop
    exact h.setNonce_other (hne ht) next ms
  · obtain ⟨t, ht, rfl⟩ := hop
    exact h.release_other (hne ht) ownerId

/-- An upkeep does the same on both sides. -/
theorem SameWorld.upkeep {v v' w : World} (h : SameWorld lib calls sender v w) {u : Upkeep}
    (hu : u.apply opens v = some v') :
    ∃ w', u.apply opens w = some w' ∧ SameWorld lib calls sender v' w' := by
  cases u with
  | clock t =>
    simp only [Upkeep.apply] at hu
    split_ifs at hu with hle
    obtain rfl := Option.some_inj.mp hu
    exact ⟨{ w with clock := t }, if_pos (h.clock ▸ hle), rfl, h.db⟩
  | migrate =>
    obtain rfl := Option.some_inj.mp hu
    exact ⟨_, rfl, h.clock, h.db.migrate⟩
  | reconcile store =>
    simp only [Upkeep.apply] at hu
    split_ifs at hu with hopens
    obtain rfl := Option.some_inj.mp hu
    exact ⟨_, if_pos hopens, h.clock, h.db.reconcile store⟩
  | deleteRows doomed =>
    obtain rfl := Option.some_inj.mp hu
    exact ⟨_, rfl, h.clock, h.db.deleteWhere doomed⟩

/-- **One move of a deployment.** -/
theorem unwinding_deployment (hfun : HashesTellSenders lib calls) :
    Unwinding (deployment mayFail opens) (OfSender lib calls sender)
      (fun i => Concerns ((calls i).tracked lib)) (SameWorld lib calls sender) := by
  refine ⟨fun u v v' w h hu => h.upkeep hu, ?_, ?_⟩
  · intro o i op a v v' w hi hop h ha
    have hclocks := h.clock
    simp only [deployment, machine] at ha ⊢
    rw [hclocks]
    split_ifs at ha with hnow
    rw [if_pos hnow]
    cases hf : o.fault with
    | none =>
      simp only [hf, Option.some.injEq, Prod.mk.injEq] at ha ⊢
      obtain ⟨rfl, rfl⟩ := ha
      obtain ⟨hanswer, hdb⟩ := serve_own hfun h.db hi hop o
      exact ⟨_, ⟨hanswer, rfl⟩, rfl, hdb⟩
    | some err =>
      simp only [hf] at ha ⊢
      split_ifs at ha with hfails
      obtain ⟨rfl, rfl⟩ := Prod.mk.inj (Option.some_inj.mp ha)
      exact ⟨w, if_pos hfails, h⟩
  · intro o i op a v v' w hi hop h ha
    have hserved : Served mayFail v v' op a := served_of_answer (i := i) ha
    refine ⟨h.clock.trans hserved.clock.symm, ?_⟩
    rcases hserved.effect with ⟨-, heff⟩ | ⟨-, hdb, -⟩
    · exact serve_other hfun h.db hi hop heff
    · rw [hdb]
      exact h.db

/-! ### Runs -/

/-- `d` is a run of the requests of the sender alone: they do in it what they do in `c`, and see the
same expected nonce, lock and records. -/
structure RunsAlone (lib : Externals) (calls : ℕ → RequestCall) (sender : String)
    (c d : SessionConf) : Prop where
  alone : ∀ x ∈ d.history, OfSender lib calls sender x.tid
  own : ∀ i, OfSender lib calls sender i → d.own i = c.own i ∧ d.thread i = c.thread i
  clock : d.world.clock = c.world.clock
  nextExpectedNonce : nextExpectedNonce d.world.db sender = nextExpectedNonce c.world.db sender
  lockHolder : lockHolder d.world.db sender = lockHolder c.world.db sender
  loadTx : ∀ i t, (calls i).tracked lib = some t → t.sender = sender →
    loadTx d.world.db t.l2TxHash = loadTx c.world.db t.l2TxHash

/-- **Senders do not disturb each other.** For every run of requests of any senders over one file,
in which store calls may fail and other processes open and prune the file, there is a run in which
only the requests of one sender are made, and these make the same calls, are answered alike, and
leave the same expected nonce, lock and records of their transactions. Which rows a pruning takes is
left open, so the same rows are taken in both. -/
theorem runsAlone_sender (hfun : HashesTellSenders lib calls)
    (hw : Attributed (TellsSender lib calls) w.db) (h : Deployment mayFail opens lib calls w c) :
    ∃ d, Deployment mayFail opens lib calls w d ∧ RunsAlone lib calls sender c d := by
  obtain ⟨d, hd, hsame, hres⟩ := (unwinding_deployment hfun).exists_restricted
    (fun i es op k htrace => concerns_of_trace htrace) (v := w) (w := w) ⟨rfl, SameFor.refl hw⟩ h
  refine ⟨d, hd, fun x hx => hres.chosen_of_mem hx, fun i hi => ⟨hres.own_eq hi, ?_⟩, hsame.clock,
    hsame.db.nextExpectedNonce_eq, ?_, ?_⟩
  · rw [hres.thread i, if_pos hi]
  · rw [Store.lockHolder, Store.lockHolder, hsame.db.lock]
  · rintro i t ht rfl
    rw [Store.loadTx, Store.loadTx, hsame.db.find?_eq ⟨i, t, ht, rfl, rfl⟩]

end Isolation

/-! ### A session of two senders -/

section Sample

/-- Another signed legacy transaction with empty fields. -/
def otherRawTx : List UInt8 := [0xc9, 0x80, 0x80, 0x80, 0x80, 0x80, 0x80, 0x1b, 0x01, 0x02]

/-- Its hash. -/
def otherHash : String := "0x49e4739db9e707728e239165614b6cfa803dd87ec772e527c3df1fdd8f81dc4e"

/-- Its signer. -/
def otherSender : String := "0x8c5507ac6f250bb40d2be780816502c9e8181f07"

/-- The hash function at the texts of the session. -/
def twoSenderKeccak256 (bytes : List UInt8) : List UInt8 :=
  if bytes = otherRawTx then
    [0x49, 0xe4, 0x73, 0x9d, 0xb9, 0xe7, 0x07, 0x72, 0x8e, 0x23, 0x91, 0x65, 0x61, 0x4b, 0x6c,
      0xfa, 0x80, 0x3d, 0xd8, 0x7e, 0xc7, 0x72, 0xe5, 0x27, 0xc3, 0xdf, 0x1f, 0xdd, 0x8f, 0x81,
      0xdc, 0x4e]
  else if bytes = utf8 (otherHash ++ ":1700000000000:4242:2") then
    [0xb3, 0x24, 0xed, 0x81, 0x81, 0x51, 0xc0, 0x91, 0x28, 0xc6, 0x25, 0x98, 0xbe, 0xae, 0x57,
      0x13, 0xe3, 0x2f, 0x31, 0x96, 0xf6, 0x3f, 0x8c, 0xc5, 0x95, 0xea, 0x8d, 0x02, 0x4d, 0xfe,
      0xc5, 0xb0]
  else sampleKeccak256 bytes

/-- The libraries at the inputs of the session; a transaction is decoded to its own bytes. -/
def twoSenderExternals : Externals where
  TxEnvelope := List UInt8
  keccak256 := twoSenderKeccak256
  parseParams raw :=
    if raw = "[\"0xc98080808080801b0102\"]" then .ok [.string "0xc98080808080801b0102"]
    else sampleExternals.parseParams raw
  hexDecode := decodeHexDigits
  decode2718 bytes :=
    if bytes = sampleRawTx ∨ bytes = otherRawTx then .ok (bytes, [])
    else .error "unexpected type flag"
  recoverSigner tx := .ok (if tx = otherRawTx then otherSender else sampleSender)
  nonce _ := 0
  serializeRequest method id := .ok ⟨method, id, none⟩
  rawJsonString s := .ok ("\"" ++ s ++ "\"")

/-- One request of each sender. -/
def twoSenderCalls : ℕ → RequestCall
  | 0 => sampleCall ⟨1700000000000, 4242, 1⟩
  | 1 =>
    { transport := sampleTransport
      stamp := ⟨1700000000000, 4242, 2⟩
      packet := .single
        ⟨"eth_sendRawTransaction", .number 2, some "[\"0xc98080808080801b0102\"]"⟩ }
  | _ => idleCall

theorem tracked_twoSenderCalls_zero : ((twoSenderCalls 0).tracked twoSenderExternals).map
    (fun t => (t.l2TxHash, t.sender)) = some (sampleHash, sampleSender) := by decide +kernel

theorem tracked_twoSenderCalls_one : ((twoSenderCalls 1).tracked twoSenderExternals).map
    (fun t => (t.l2TxHash, t.sender)) = some (otherHash, otherSender) := by decide +kernel

theorem tracked_twoSenderCalls_idle (i : ℕ) :
    (twoSenderCalls (i + 2)).tracked twoSenderExternals = none := by
  show idleCall.tracked twoSenderExternals = none
  decide +kernel

/-- A tracked request of the session is one of these two. -/
theorem tellsSender_twoSenderCalls {hash s : String}
    (h : TellsSender twoSenderExternals twoSenderCalls hash s) :
    hash = sampleHash ∧ s = sampleSender ∨ hash = otherHash ∧ s = otherSender := by
  obtain ⟨i, t, ht, rfl, rfl⟩ := h
  match i with
  | 0 =>
    have hpair := tracked_twoSenderCalls_zero
    rw [ht] at hpair
    exact Or.inl (Prod.mk.inj (Option.some_inj.mp hpair))
  | 1 =>
    have hpair := tracked_twoSenderCalls_one
    rw [ht] at hpair
    exact Or.inr (Prod.mk.inj (Option.some_inj.mp hpair))
  | i + 2 =>
    rw [tracked_twoSenderCalls_idle] at ht
    cases ht

theorem hashesTellSenders_twoSenderCalls :
    HashesTellSenders twoSenderExternals twoSenderCalls := by
  have hne : sampleHash ≠ otherHash := by decide
  intro hash s s' h h'
  rcases tellsSender_twoSenderCalls h with ⟨rfl, rfl⟩ | ⟨rfl, rfl⟩
  · rcases tellsSender_twoSenderCalls h' with ⟨-, rfl⟩ | ⟨heq, -⟩
    · rfl
    · exact absurd heq hne
  · rcases tellsSender_twoSenderCalls h' with ⟨heq, -⟩ | ⟨-, rfl⟩
    · exact absurd heq.symm hne
    · rfl

/-- The requests of the two senders, in turn. -/
def twoSenderMoves : List (Move (deployment false fun _ => false)) :=
  (List.replicate 11 ()).flatMap fun _ =>
    [.run 0 (sampleOracle 1700000000000 (.ok sampleResult)),
      .run 1 (sampleOracle 1700000000000 (.ok sampleResult))]

/-- Both requests have submitted, and the one did so as if it were alone. -/
theorem runsAlone_sender_two : ∃ c d : SessionConf,
    Deployment false (fun _ => false) twoSenderExternals twoSenderCalls sampleWorld c ∧
      nextExpectedNonce c.world.db sampleSender = some 1 ∧
      nextExpectedNonce c.world.db otherSender = some 1 ∧
      Deployment false (fun _ => false) twoSenderExternals twoSenderCalls sampleWorld d ∧
      RunsAlone twoSenderExternals twoSenderCalls sampleSender c d := by
  have hplay : ((Conf.start (fun i => (twoSenderCalls i).program twoSenderExternals)
      sampleWorld).play _ twoSenderMoves).any (fun c =>
        decide (nextExpectedNonce c.world.db sampleSender = some 1 ∧
          nextExpectedNonce c.world.db otherSender = some 1)) = true := by decide +kernel
  obtain ⟨c, hc, hP⟩ := (Option.any_eq_true ..).mp hplay
  obtain ⟨hnext, hother⟩ := of_decide_eq_true hP
  have h : Deployment false (fun _ => false) twoSenderExternals twoSenderCalls sampleWorld c :=
    ⟨twoSenderMoves, hc⟩
  obtain ⟨d, hd, halone⟩ := runsAlone_sender hashesTellSenders_twoSenderCalls
    (fun r hr => absurd hr List.not_mem_nil) h
  exact ⟨c, d, h, hnext, hother, hd, halone⟩

end Sample

end FoundryIgra
