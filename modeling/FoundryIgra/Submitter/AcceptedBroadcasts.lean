import FoundryIgra.Payload.Build
import FoundryIgra.Submitter.CacheFreshness

/-!
# What the node accepts of a submission

A broadcast that fails may have been accepted by the node with its acknowledgement lost;
`submit_payload` (`submitter.rs`) cannot tell, and gives every failed first broadcast a second
attempt with a new transaction. So a submission has at most two transactions accepted, and when no
acknowledgement is lost at most one, which is then acknowledged.

## Main definitions

* `Broadcasts`, `Broadcasts.after`: what was built and accepted, folded along the calls.
* `Accounted`: the weakest precondition of a submission over its broadcasts.
* `BuildInput.arguments`, `BuildsWith`: the building task runs the builder.
* `Embeds`: a transaction carries L2 data.

## Main results

* `accepted_of_trace`: how many transactions are accepted.
* `payload_of_accepted`: an accepted transaction embeds the raw transaction.
* `acceptedTwice_of_lostAck`: two different transactions are accepted.
-/

namespace FoundryIgra

open Rust Concurrency

/-- What a submission has built and what the node has accepted. -/
structure Broadcasts (lib : KaspaExternals) where
  /-- The broadcasts that were made. -/
  count : ℕ
  accepted : List lib.Transaction
  /-- The accepted broadcasts that were not acknowledged. -/
  lostAcks : ℕ
  built : List (BuildInput lib × lib.Transaction)

namespace Broadcasts

variable {lib : KaspaExternals}

/-- Nothing was built. -/
def start : Broadcasts lib := ⟨0, [], 0, []⟩

/-- After a call; `lost n` says that the `n`-th broadcast, if it fails, was accepted. -/
def after (lost : ℕ → Bool) (v : Broadcasts lib) : (op : SubmitOp lib) → op.Ans → Broadcasts lib
  | .submitTransaction tx, .ok _ => { v with count := v.count + 1, accepted := tx :: v.accepted }
  | .submitTransaction tx, .error _ =>
    if lost v.count then
      { v with
        count := v.count + 1
        accepted := tx :: v.accepted
        lostAcks := v.lostAcks + 1 }
    else { v with count := v.count + 1 }
  | .buildTransaction input, .ok (.ok r) => { v with built := (input, r.2) :: v.built }
  | _, _ => v

/-- `after`, as the step of a fold along events. -/
def step (lost : ℕ → Bool) (v : Broadcasts lib) (e : (SubmitOps lib).Event) : Broadcasts lib :=
  v.after lost e.1 e.2

end Broadcasts

/-- The calls that neither build nor broadcast. -/
def SubmitOp.IsQuiet {lib : KaspaExternals} : SubmitOp lib → Prop
  | .buildTransaction _ => False
  | .submitTransaction _ => False
  | _ => True

/-- What was built and accepted along events, the most recent first. -/
def broadcastsOf {lib : KaspaExternals} (lost : ℕ → Bool) (es : List (SubmitOps lib).Event) :
    Broadcasts lib :=
  es.foldr (fun e v => v.step lost e) .start

section Accounts

variable {lib : KaspaExternals} {request : IgraSubmitRequest} {lost : ℕ → Bool} {n : ℕ}
  {v : Broadcasts lib}

/-- A transaction was built from the raw transaction of a request. -/
def BuiltFor (request : IgraSubmitRequest) (v : Broadcasts lib) (tx : lib.Transaction) : Prop :=
  ∃ input, (input, tx) ∈ v.built ∧ input.l2data = request.rawTxBytes

/-- Between the attempts: everything accepted was lost, and comes from at most `n` broadcasts. -/
structure Unacknowledged (request : IgraSubmitRequest) (n : ℕ) (v : Broadcasts lib) : Prop where
  lost_eq : v.accepted.length = v.lostAcks
  le : v.accepted.length ≤ n
  builtFor : ∀ tx ∈ v.accepted, BuiltFor request v tx

/-- The accepted transactions are at most two, and all but one at most were lost. -/
structure Balanced (request : IgraSubmitRequest) (v : Broadcasts lib) : Prop where
  lost_le : v.lostAcks ≤ v.accepted.length
  le_lost : v.accepted.length ≤ v.lostAcks + 1
  le_two : v.accepted.length ≤ 2
  builtFor : ∀ tx ∈ v.accepted, BuiltFor request v tx

/-- What holds at the calls of a submission. -/
structure Accounting (request : IgraSubmitRequest) (v : Broadcasts lib) (op : SubmitOp lib) : Prop
    extends Balanced request v where
  broadcasts : ∀ tx, op = .submitTransaction tx → BuiltFor request v tx

/-- What holds when a submission returns: the acknowledged broadcast comes with a success. -/
structure Accounts (request : IgraSubmitRequest) (result : Except String IgraSubmitResult)
    (v : Broadcasts lib) : Prop extends Balanced request v where
  ok : ∀ r, result = .ok r → v.accepted.length = v.lostAcks + 1
  error : ∀ err, result = .error err → v.accepted.length = v.lostAcks

/-- The weakest precondition of a program over the broadcasts. -/
structure Accounted {α : Type} (request : IgraSubmitRequest) (lost : ℕ → Bool)
    (post : α → Broadcasts lib → Prop) (p : Submission lib α) (v : Broadcasts lib) : Prop where
  holds : Program.wp (I := SubmitOps lib) (fun _ => True) (Broadcasts.step lost)
    (Accounting request) post p v

theorem Unacknowledged.balanced (hv : Unacknowledged request n v) (hn : n ≤ 2) :
    Balanced request v :=
  ⟨hv.lost_eq.ge, hv.lost_eq.le.trans (Nat.le_succ _), hv.le.trans hn, hv.builtFor⟩

theorem Unacknowledged.mono (hv : Unacknowledged request n v) : Unacknowledged request (n + 1) v :=
  ⟨hv.lost_eq, hv.le.trans (Nat.le_succ _), hv.builtFor⟩

/-- A submission may fail between its broadcasts. -/
theorem Unacknowledged.accounts_error (hv : Unacknowledged request n v) (hn : n ≤ 2)
    (err : String) : Accounts request (.error err) v where
  toBalanced := hv.balanced hn
  ok _ h := by cases h
  error _ _ := hv.lost_eq

/-! ### Rules -/

variable {α β : Type} {post : α → Broadcasts lib → Prop}

theorem accounted_pure {a : α} (h : post a v) : Accounted request lost post (pure a) v := ⟨h⟩

theorem accounted_bind {post : β → Broadcasts lib → Prop} {p : Submission lib α}
    {f : α → Submission lib β}
    (h : Accounted request lost (fun a v' => Accounted request lost post (f a) v') p v) :
    Accounted request lost post (p >>= f) v :=
  ⟨(Program.wp_bind ..).mpr
    (Program.wp_mono (fun _ _ hJ => hJ) (fun _ _ hf => hf.holds) p v h.holds)⟩

/-- The rule of a call. -/
theorem accounted_perform {op : SubmitOp lib} {post : op.Out → Broadcasts lib → Prop}
    (hop : Accounting request v op)
    (h : ∀ a b, (SubmitOps lib).exit op a = some b → post b (v.after lost op a)) :
    Accounted request lost post (Submission.perform op) v := by
  refine ⟨hop, fun a _ => ?_⟩
  cases hx : (SubmitOps lib).exit op a with
  | none => cases op <;> cases hx
  | some b => exact h a b hx

/-- The rule of a call that neither builds nor broadcasts. -/
theorem accounted_quiet {op : SubmitOp lib} {post : op.Out → Broadcasts lib → Prop}
    (hop : op.IsQuiet) (hv : Balanced request v) (h : ∀ b, post b v) :
    Accounted request lost post (Submission.perform op) v := by
  have hafter : ∀ a, v.after lost op a = v := by
    cases op with
    | buildTransaction _ => exact hop.elim
    | submitTransaction _ => exact hop.elim
    | _ => exact fun _ => rfl
  refine accounted_perform ⟨hv, ?_⟩ fun a b _ => ?_
  · rintro tx rfl
    exact hop.elim
  · rw [hafter a]
    exact h b

theorem accounted_call {op : SubmitOp lib} {f : op.Out → Submission lib β}
    {post : β → Broadcasts lib → Prop} (hop : op.IsQuiet) (hv : Balanced request v)
    (h : ∀ b, Accounted request lost post (f b) v) :
    Accounted request lost post (Submission.perform op >>= f) v :=
  accounted_bind (accounted_quiet hop hv h)

theorem accounted_orReturn {r : Except String α} {f : α → Submission lib (Except String β)}
    {post : Except String β → Broadcasts lib → Prop} (herror : ∀ err, post (.error err) v)
    (hok : ∀ a, r = .ok a → Accounted request lost post (f a) v) :
    Accounted request lost post (Submission.orReturn r f) v := by
  cases r with
  | error err => exact accounted_pure (herror err)
  | ok a => exact hok a rfl

theorem accounted_invalidateUtxoCache {post : Unit → Broadcasts lib → Prop}
    (hv : Balanced request v) (h : post () v) :
    Accounted request lost post invalidateUtxoCache v := by
  refine accounted_call trivial hv fun _ => ?_
  exact accounted_quiet (show SubmitOp.clearCache.IsQuiet from trivial) hv fun _ => h

theorem accounted_loadUtxos {rpcUrl network sourceAddress : String} {forceRefresh : Bool}
    {post : Except String (UtxoSet lib) → Broadcasts lib → Prop} (hv : Balanced request v)
    (h : ∀ r, post r v) :
    Accounted request lost post (loadUtxos rpcUrl network sourceAddress forceRefresh) v := by
  have hfetch : ∀ cacheKey readEpoch, Accounted request lost post
      (fetchUtxos cacheKey sourceAddress readEpoch forceRefresh) v := by
    intro cacheKey readEpoch
    refine accounted_call trivial hv fun requestedAt => ?_
    refine accounted_call trivial hv fun reply => ?_
    cases reply with
    | error err => exact accounted_pure (h _)
    | ok entries =>
      exact accounted_call trivial hv fun _ => accounted_pure (h _)
  refine accounted_call trivial hv fun readEpoch => ?_
  cases forceRefresh with
  | true => exact hfetch _ readEpoch
  | false =>
    refine accounted_call trivial hv fun cached => ?_
    cases cached with
    | some utxos => exact accounted_pure (h _)
    | none => exact hfetch _ readEpoch

/-! ### Submissions -/

variable {next : Submission lib (Except String IgraSubmitResult)}

/-- A broadcast is acknowledged, or leaves what was accepted unacknowledged. -/
theorem accounted_broadcast {tx : lib.Transaction} (hv : Unacknowledged request n v)
    (hn : n + 1 ≤ 2) (htx : BuiltFor request v tx) (forceRefresh : Bool) (payloadNonce : UInt64)
    (hnext : ∀ v', Unacknowledged request (n + 1) v' →
      Accounted request lost (Accounts request) next v') :
    Accounted request lost (Accounts request) (broadcast forceRefresh payloadNonce tx next) v := by
  have hbalanced := hv.balanced (Nat.le_of_succ_le hn)
  refine accounted_bind (accounted_invalidateUtxoCache hbalanced ?_)
  refine accounted_bind (accounted_perform ⟨hbalanced, ?_⟩ ?_)
  · rintro _ ⟨⟩
    exact htx
  intro a b hb
  obtain rfl : a = b := Option.some.inj hb
  have hbuilt : ∀ t ∈ tx :: v.accepted, BuiltFor request v t := by
    intro t ht
    rcases List.mem_cons.mp ht with rfl | ht
    · exact htx
    · exact hv.builtFor t ht
  have hlen := hv.lost_eq
  have hle := hv.le
  cases a with
  | ok txId =>
    have hacked : Balanced request (v.after lost (.submitTransaction tx) (.ok txId)) :=
      ⟨by simp only [Broadcasts.after, List.length_cons]; omega,
        by simp only [Broadcasts.after, List.length_cons]; omega,
        by simp only [Broadcasts.after, List.length_cons]; omega, hbuilt⟩
    refine accounted_bind (accounted_invalidateUtxoCache hacked ?_)
    exact accounted_pure
      { toBalanced := hacked
        ok := fun _ _ => by simp only [Broadcasts.after, List.length_cons, hlen]
        error := fun _ h => by cases h }
  | error err =>
    have hopen : Unacknowledged request (n + 1)
        (v.after lost (.submitTransaction tx) (.error err)) := by
      simp only [Broadcasts.after]
      split_ifs
      · exact ⟨by simp [hlen], by simpa using hle, hbuilt⟩
      · exact ⟨hlen, hle.trans (Nat.le_succ n), hv.builtFor⟩
    cases forceRefresh with
    | true => exact accounted_pure (hopen.accounts_error hn _)
    | false => exact hnext _ hopen

theorem accounted_buildAndBroadcast {input : BuildInput lib} (hv : Unacknowledged request n v)
    (hn : n + 1 ≤ 2) (hinput : input.l2data = request.rawTxBytes) (forceRefresh : Bool)
    (hnext : ∀ v', Unacknowledged request (n + 1) v' →
      Accounted request lost (Accounts request) next v') :
    Accounted request lost (Accounts request) (buildAndBroadcast input forceRefresh next) v := by
  have hle := Nat.le_of_succ_le hn
  refine accounted_bind (accounted_perform ⟨hv.balanced hle, fun _ h => by cases h⟩ ?_)
  intro a b hb
  obtain rfl : a = b := Option.some.inj hb
  cases a with
  | error err => exact accounted_pure (hv.accounts_error hle _)
  | ok built =>
    cases built with
    | error err => exact accounted_pure (hv.accounts_error hle _)
    | ok r =>
      have hmono : ∀ tx, BuiltFor request v tx →
          BuiltFor request (v.after lost (.buildTransaction input) (.ok (.ok r))) tx :=
        fun tx ⟨input', hmem, hl2data⟩ => ⟨input', List.mem_cons_of_mem _ hmem, hl2data⟩
      have hopen : Unacknowledged request n
          (v.after lost (.buildTransaction input) (.ok (.ok r))) :=
        ⟨hv.lost_eq, hv.le, fun tx htx => hmono tx (hv.builtFor tx htx)⟩
      exact accounted_broadcast hopen hn ⟨input, List.mem_cons_self, hinput⟩ forceRefresh r.1 hnext

/-- **An attempt** broadcasts at most once. -/
theorem accounted_attempt {p : Prepared lib} (hv : Unacknowledged request n v) (hn : n + 1 ≤ 2)
    (hp : p.l2data = request.rawTxBytes) (forceRefresh : Bool)
    (hnext : ∀ v', Unacknowledged request (n + 1) v' →
      Accounted request lost (Accounts request) next v') :
    Accounted request lost (Accounts request) (attempt request p forceRefresh next) v := by
  have hle := Nat.le_of_succ_le hn
  refine accounted_bind (accounted_loadUtxos (hv.balanced hle) fun loaded => ?_)
  cases loaded with
  | error err => exact accounted_pure (hv.accounts_error hle _)
  | ok utxos =>
    show Accounted request lost (Accounts request) (if utxos.entries.isEmpty = true then _ else _) v
    split_ifs
    · exact accounted_pure (hv.accounts_error hle _)
    · exact hnext v hv.mono
    · exact accounted_buildAndBroadcast hv hn hp forceRefresh hnext

theorem accounted_attempts {p : Prepared lib} (hv : Unacknowledged request 0 v)
    (hp : p.l2data = request.rawTxBytes) :
    Accounted request lost (Accounts request) (attempts request p) v := by
  refine accounted_attempt hv (by omega) hp false fun v₁ h₁ => ?_
  refine accounted_attempt h₁ (by omega) hp true fun v₂ h₂ => ?_
  exact accounted_pure (h₂.accounts_error (le_refl 2) _)

/-- **Submissions** keep their accounts. -/
theorem accounted_submitPayload :
    Accounted request lost (Accounts request)
      (submitPayload request : Submission lib (Except String IgraSubmitResult)) .start := by
  have hstart : Unacknowledged request 0 (Broadcasts.start : Broadcasts lib) :=
    ⟨rfl, le_refl _, fun _ h => by cases h⟩
  have hbalanced := hstart.balanced (by omega)
  have herror : ∀ err, Accounts request (.error err) (Broadcasts.start : Broadcasts lib) :=
    fun err => hstart.accounts_error (by omega) err
  rw [submitPayload]
  refine accounted_orReturn herror fun l2 hl2 => ?_
  show Accounted request lost (Accounts request)
    (if l2.2.length > igraMaxL2dataBytes then _ else _) _
  split_ifs
  · exact accounted_pure (herror _)
  refine accounted_orReturn herror fun rpcUrl _ => accounted_orReturn herror fun network _ => ?_
  refine accounted_orReturn herror fun descriptor _ => ?_
  refine accounted_call trivial hbalanced fun key => ?_
  refine accounted_orReturn herror fun privateKey _ => ?_
  refine accounted_orReturn herror fun sourceAddress _ => ?_
  refine accounted_call trivial hbalanced fun connected => ?_
  cases connected with
  | error err => exact accounted_pure (herror _)
  | ok _ =>
    exact accounted_orReturn herror fun txIdPrefix _ =>
      accounted_attempts hstart (l2data_of_buildIgraL2data hl2)

/-! ### Traces -/

theorem Accounted.of_trace {p rest : Submission lib α} {es : List (SubmitOps lib).Event}
    (h : Accounted request lost post p .start) (ht : Program.Trace p es rest) :
    Accounted request lost post rest (broadcastsOf lost es) :=
  ⟨Program.Trace.wp h.holds ht fun _ _ => trivial⟩

/-- What was built was returned by a building task. -/
theorem exists_event_of_built {es : List (SubmitOps lib).Event} {input : BuildInput lib}
    {tx : lib.Transaction} (h : (input, tx) ∈ (broadcastsOf lost es).built) :
    ∃ nonce, (⟨.buildTransaction input, .ok (.ok (nonce, tx))⟩ : (SubmitOps lib).Event) ∈ es := by
  induction es with
  | nil => cases h
  | cons e es ih =>
    have hstep : (broadcastsOf lost (e :: es)).built =
        ((broadcastsOf lost es).after lost e.1 e.2).built := rfl
    rw [hstep] at h
    have htail : (input, tx) ∈ (broadcastsOf lost es).built → ∃ nonce,
        (⟨.buildTransaction input, .ok (.ok (nonce, tx))⟩ : (SubmitOps lib).Event) ∈ e :: es := by
      intro hmem
      obtain ⟨nonce, hnonce⟩ := ih hmem
      exact ⟨nonce, List.mem_cons_of_mem _ hnonce⟩
    obtain ⟨op, answer⟩ := e
    cases op with
    | buildTransaction input' =>
      cases answer with
      | error err => exact htail h
      | ok built =>
        cases built with
        | error err => exact htail h
        | ok r =>
          rcases List.mem_cons.mp h with heq | hmem
          · obtain ⟨rfl, rfl⟩ := Prod.mk.inj heq
            exact ⟨r.1, List.mem_cons_self⟩
          · exact htail hmem
    | submitTransaction tx' =>
      refine htail ?_
      cases answer with
      | ok txId => exact h
      | error err =>
        simp only [Broadcasts.after] at h
        split_ifs at h
        · exact h
        · exact h
    | _ => exact htail h

/-- At every point of a submission. -/
theorem balanced_of_trace {es : List (SubmitOps lib).Event}
    {rest : Submission lib (Except String IgraSubmitResult)}
    (h : Program.Trace (submitPayload request) es rest) (lost : ℕ → Bool) :
    Balanced request (broadcastsOf lost es) := by
  have hrest : Accounted request lost (Accounts request) rest (broadcastsOf lost es) :=
    accounted_submitPayload.of_trace h
  obtain ⟨hpending, hreturned⟩ := Program.wp_status hrest.holds
  cases hstatus : rest.status with
  | inl op => exact (hpending op hstatus).toBalanced
  | inr result => exact (hreturned result hstatus).toBalanced

/-- When a submission has returned. -/
theorem accounts_of_trace {es : List (SubmitOps lib).Event}
    {rest : Submission lib (Except String IgraSubmitResult)}
    (h : Program.Trace (submitPayload request) es rest) (lost : ℕ → Bool)
    {result : Except String IgraSubmitResult} (hresult : rest.status = .inr result) :
    Accounts request result (broadcastsOf lost es) := by
  have hrest : Accounted request lost (Accounts request) rest (broadcastsOf lost es) :=
    accounted_submitPayload.of_trace h
  exact (Program.wp_status hrest.holds).2 result hresult

/-- **How many transactions are accepted.** At most two, and at most one unless an acknowledgement
was lost; each was built from the raw transaction of the request. A call that has returned had at
most one accepted, and none if it failed, exactly when no acknowledgement was lost. -/
theorem accepted_of_trace {es : List (SubmitOps lib).Event}
    {rest : Submission lib (Except String IgraSubmitResult)}
    (h : Program.Trace (submitPayload request) es rest) (lost : ℕ → Bool) :
    (broadcastsOf lost es).accepted.length ≤ 2 ∧
    ((broadcastsOf lost es).lostAcks = 0 → (broadcastsOf lost es).accepted.length ≤ 1) ∧
    (∀ tx ∈ (broadcastsOf lost es).accepted, ∃ input nonce,
      (⟨.buildTransaction input, .ok (.ok (nonce, tx))⟩ : (SubmitOps lib).Event) ∈ es ∧
        input.l2data = request.rawTxBytes) ∧
    ∀ result, rest.status = .inr result →
      ((broadcastsOf lost es).accepted.length ≤ 1 ∧
          (∀ err, result = .error err → (broadcastsOf lost es).accepted = []) ↔
        (broadcastsOf lost es).lostAcks = 0) := by
  have hbalanced := balanced_of_trace h lost
  refine ⟨hbalanced.le_two, fun hnone => ?_, fun tx htx => ?_, fun result hresult => ?_⟩
  · have hle := hbalanced.le_lost
    omega
  · obtain ⟨input, hbuilt, hl2data⟩ := hbalanced.builtFor tx htx
    obtain ⟨nonce, hmem⟩ := exists_event_of_built hbuilt
    exact ⟨input, nonce, hmem, hl2data⟩
  · have haccounts := accounts_of_trace h lost hresult
    cases result with
    | ok r =>
      have hlen := haccounts.ok r rfl
      constructor
      · rintro ⟨hone, -⟩
        omega
      · exact fun hnone => ⟨by omega, fun _ herr => by cases herr⟩
    | error err =>
      have hlen := haccounts.error err rfl
      constructor
      · rintro ⟨-, hnil⟩
        rw [hnil err rfl] at hlen
        exact hlen.symm
      · intro hnone
        have hnil := List.length_eq_zero_iff.mp (hlen.trans hnone)
        exact ⟨by omega, fun _ _ => hnil⟩

end Accounts

/-! ### What an accepted transaction embeds -/

section Payloads

variable {kaspa : KaspaConsensus} {hexDecode : String → Except String (List UInt8)}
  {address : kaspa.PrivateKey → KaspaAddressPrefix → Except String String}

/-- The libraries of a submitter, from those of the builder. -/
@[reducible] def KaspaConsensus.externals (kaspa : KaspaConsensus)
    (hexDecode : String → Except String (List UInt8))
    (address : kaspa.PrivateKey → KaspaAddressPrefix → Except String String) : KaspaExternals where
  PrivateKey := kaspa.PrivateKey
  Utxo := RpcUtxosByAddressesEntry kaspa.Script
  Transaction := KaspaTransaction kaspa.Script
  hexDecode := hexDecode
  addressFromPrivateKey := address

/-- The arguments that the building task calls the builder with. -/
def BuildInput.arguments (input : BuildInput (kaspa.externals hexDecode address)) :
    BuildArguments kaspa where
  privateKey := input.privateKey
  sourceAddress := input.sourceAddress
  networkType := input.networkType
  payloadHeader := input.payloadHeader
  l2data := input.l2data
  txIdPrefix := input.txIdPrefix
  timeoutNanos := input.timeoutSecs.toNat * 1000000000
  utxos := input.utxos

/-- A transaction that a building task returns was built by the builder. -/
def BuildsWith (e : (SubmitOps (kaspa.externals hexDecode address)).Event) : Prop :=
  ∀ input r, e = ⟨.buildTransaction input, .ok (.ok r)⟩ → ∃ elapsed rounds,
    mineAndBuildSignedPayloadTransaction kaspa input.arguments elapsed rounds = some (.ok r)

/-- The payload of a transaction is that of the L2 data, with some nonce. -/
def Embeds {Script : Type} (l2data : List UInt8) (tx : KaspaTransaction Script) : Prop :=
  ∃ header nonce, tx.payload = buildPayloadWithNonce header l2data nonce

variable {request : IgraSubmitRequest}
  {es : List (SubmitOps (kaspa.externals hexDecode address)).Event}
  {rest : Submission (kaspa.externals hexDecode address) (Except String IgraSubmitResult)}

/-- An accepted transaction embeds the raw transaction of the request. -/
theorem payload_of_accepted (hsigning : SigningKeepsContent kaspa)
    (h : Program.Trace (submitPayload request) es rest) (hbuild : ∀ e ∈ es, BuildsWith e)
    {lost : ℕ → Bool} {tx : KaspaTransaction kaspa.Script}
    (htx : tx ∈ (broadcastsOf lost es).accepted) : Embeds request.rawTxBytes tx := by
  obtain ⟨input, hbuilt, hl2data⟩ := (balanced_of_trace h lost).builtFor tx htx
  obtain ⟨nonce, hmem⟩ := exists_event_of_built hbuilt
  obtain ⟨elapsed, rounds, hrun⟩ := hbuild _ hmem input (nonce, tx) rfl
  obtain ⟨-, k, -, -, -, -, hpayload, -⟩ := exists_accepts_of_mineAndBuild hsigning hrun
  have hdata : input.arguments.l2data = request.rawTxBytes := hl2data
  exact ⟨input.payloadHeader, UInt32.ofNat k, hdata ▸ hpayload⟩

end Payloads

/-! ### Submissions whose first acknowledgement is lost -/

section Sample

/-- The id of a transaction with a payload that spends an output with an index. -/
def outpointId (payload : List UInt8) (indices : List UInt32) : List UInt8 :=
  0x97 :: 0xb1 :: (payload ++ indices.map UInt32.toUInt8)

/-- The sample libraries of the builder, with ids that begin with the prefix of the submission and
tell the outpoints. -/
def outpointConsensus : KaspaConsensus :=
  { sampleConsensus with
    transactionId := fun content =>
      outpointId content.payload (content.inputs.map fun i => i.previousOutpoint.index) }

/-- A submitter over these libraries. -/
@[reducible] def sampleBuilder : KaspaExternals :=
  outpointConsensus.externals sampleKaspa.hexDecode fun _ _ => .ok "wallet"

/-- The output that is there to pay with, at the first and at the forced attempt. -/
def sampleOutput (forceRefresh : Bool) : RpcUtxosByAddressesEntry String :=
  sampleUtxo (if forceRefresh then 1 else 0) 100000000

/-- What the building task of an attempt is given. -/
def sampleBuildInput (forceRefresh : Bool) : BuildInput sampleBuilder where
  privateKey := ()
  sourceAddress := "wallet"
  networkType := .testnet
  payloadHeader := 0x94
  l2data := sampleSubmission.rawTxBytes
  txIdPrefix := [0x97, 0xb1]
  timeoutSecs := 120
  utxos := [sampleOutput forceRefresh]

/-- What the builder makes of it. -/
def sampleBuilt (forceRefresh : Bool) : KaspaTransaction String where
  version := 0
  inputs := [⟨(sampleOutput forceRefresh).outpoint, List.replicate 66 0, 0, 1⟩]
  outputs := [⟨99780000, "wallet"⟩]
  lockTime := 0
  subnetworkId := List.replicate 20 0
  gas := 0
  payload := buildPayloadWithNonce 0x94 sampleSubmission.rawTxBytes 0
  id := outpointId (buildPayloadWithNonce 0x94 sampleSubmission.rawTxBytes 0)
    [(sampleOutput forceRefresh).outpoint.index]
  mass := 1116

theorem mineAndBuild_sampleBuilt (forceRefresh : Bool) :
    mineAndBuildSignedPayloadTransaction outpointConsensus
      (sampleBuildInput forceRefresh).arguments (fun _ => 0) 1 =
        some (.ok (0, sampleBuilt forceRefresh)) := by
  have hsorted : largestFirst [sampleOutput forceRefresh] = [sampleOutput forceRefresh] :=
    largestFirst_eq_self (List.pairwise_singleton _ _)
  have hsel : selectUtxos "wallet" (payloadLenOf sampleSubmission.rawTxBytes)
      [sampleOutput forceRefresh] = .ok ⟨[sampleOutput forceRefresh], 99780000⟩ := by
    rw [selectUtxos, hsorted]
    cases forceRefresh <;> rfl
  have hmatch : Matches outpointConsensus.transactionId [0x97, 0xb1]
      (miningInput outpointConsensus (sampleBuildInput forceRefresh).arguments
        ⟨[sampleOutput forceRefresh], 99780000⟩) 0 := List.prefix_append [0x97, 0xb1] _
  refine Eq.trans (mineAndBuild_first (List.cons_ne_nil _ _) hsel hmatch (Nat.zero_le _)
    Nat.one_pos) ?_
  cases forceRefresh <;> rfl

/-- What is built embeds the raw transaction. -/
theorem embeds_sampleBuilt (forceRefresh : Bool) :
    Embeds sampleSubmission.rawTxBytes (sampleBuilt forceRefresh) := ⟨0x94, 0, rfl⟩

/-- Arguments and a result are those of an attempt. -/
def isSampleBuild (args : BuildArguments outpointConsensus)
    (utxos : List (RpcUtxosByAddressesEntry String)) (r : UInt64 × KaspaTransaction String)
    (forceRefresh : Bool) : Bool :=
  args.sourceAddress == "wallet" && args.networkType == .testnet &&
    args.payloadHeader == 0x94 && args.l2data == sampleSubmission.rawTxBytes &&
    args.txIdPrefix == [0x97, 0xb1] &&
    args.timeoutNanos == (sampleBuildInput forceRefresh).arguments.timeoutNanos &&
    utxos == [sampleOutput forceRefresh] && r == (0, sampleBuilt forceRefresh)

theorem eq_of_isSampleBuild {args : BuildArguments outpointConsensus}
    {r : UInt64 × KaspaTransaction String} {forceRefresh : Bool}
    (h : isSampleBuild args args.utxos r forceRefresh = true) :
    args = (sampleBuildInput forceRefresh).arguments ∧ r = (0, sampleBuilt forceRefresh) := by
  obtain ⟨_, sourceAddress, networkType, payloadHeader, l2data, txIdPrefix, timeoutNanos, utxos⟩ :=
    args
  simp only [isSampleBuild, Bool.and_eq_true, beq_iff_eq] at h
  obtain ⟨⟨⟨⟨⟨⟨⟨rfl, rfl⟩, rfl⟩, rfl⟩, rfl⟩, rfl⟩, hutxos⟩, rfl⟩ := h
  have heq : ∀ l l' : List (RpcUtxosByAddressesEntry String), (l == l') = true → l = l' :=
    fun _ _ => eq_of_beq
  obtain rfl : utxos = [sampleOutput forceRefresh] := heq _ _ hutxos
  exact ⟨rfl, rfl⟩

/-- `isSampleBuild`, of the builds among the events. -/
def buildsSample : (SubmitOps sampleBuilder).Event → Bool
  | ⟨.buildTransaction input, .ok (.ok r)⟩ =>
    [false, true].any (isSampleBuild input.arguments input.arguments.utxos r)
  | _ => true

theorem buildsWith_of_buildsSample {e : (SubmitOps sampleBuilder).Event}
    (h : buildsSample e = true) : BuildsWith e := by
  rintro input r rfl
  obtain ⟨forceRefresh, -, hbuild⟩ := List.any_eq_true.mp h
  obtain ⟨hargs, rfl⟩ := eq_of_isSampleBuild hbuild
  exact ⟨fun _ => 0, 1, hargs ▸ mineAndBuild_sampleBuilt forceRefresh⟩

/-- The accepted transactions are these. -/
def isAccepted (accepted txs : List (KaspaTransaction String)) : Bool := accepted == txs

theorem eq_of_isAccepted {accepted txs : List (KaspaTransaction String)}
    (h : isAccepted accepted txs = true) : accepted = txs := eq_of_beq h

/-- The id that the node answers a broadcast with. -/
def sampleTxId : String := "97b1000000000000000000000000000000000000000000000000000000000001"

/-- What the submission returns. -/
def sampleAnswer : IgraSubmitResult := ⟨sampleTxId, 0⟩

/-- The node at an attempt, with its answer to the broadcast. -/
def sampleAttempt (forceRefresh : Bool) (submit : Except String String) :
    NodeOracle sampleBuilder where
  key := .ok ()
  connect := .ok ()
  utxos := .ok [sampleOutput forceRefresh]
  build := .ok (.ok (0, sampleBuilt forceRefresh))
  submit := submit

/-- The next `n` calls of the submission. -/
def sampleAttemptCalls (n : ℕ) (o : NodeOracle sampleBuilder) :
    List (Move (submitterMachine sampleBuilder)) :=
  List.replicate n (.run 0 o)

/-- What a schedule of the submission leads to. -/
theorem exists_trace_of_any (ms : List (Move (submitterMachine sampleBuilder)))
    (P : List (SubmitOps sampleBuilder).Event →
      Submission sampleBuilder (Except String IgraSubmitResult) → Bool)
    (h : ((Conf.start (fun _ => submitPayload sampleSubmission) (CacheWorld.initial 0)).play
      (submitterMachine sampleBuilder) ms).any (fun c => (c.own 0).all buildsSample &&
        P (c.own 0) (c.thread 0)) = true) :
    ∃ es rest, Program.Trace (submitPayload sampleSubmission) es rest ∧
      (∀ e ∈ es, BuildsWith e) ∧ P es rest = true := by
  obtain ⟨c, hc, hP⟩ := (Option.any_eq_true ..).mp h
  have hreach : Submitting (fun _ => sampleSubmission) 0 c := ⟨ms, hc⟩
  simp only [Bool.and_eq_true, List.all_eq_true] at hP
  obtain ⟨hbuilds, hes⟩ := hP
  exact ⟨c.own 0, c.thread 0, hreach.trace 0,
    fun e he => buildsWith_of_buildsSample (hbuilds e he), hes⟩

/-- The first broadcast of a submission is acknowledged. -/
theorem accepted_of_trace_acknowledged :
    ∃ es rest, Program.Trace (submitPayload sampleSubmission : Submission sampleBuilder _) es rest ∧
      rest.status = .inr (.ok sampleAnswer) ∧
      (broadcastsOf (fun _ => true) es).accepted.length = 1 := by
  obtain ⟨es, rest, htrace, -, hP⟩ := exists_trace_of_any
    (sampleAttemptCalls 13 (sampleAttempt false (.ok sampleTxId)))
    (fun es rest => decide ((broadcastsOf (fun _ => true) es).lostAcks = 0 ∧
      0 < (broadcastsOf (fun _ => true) es).accepted.length ∧
      rest.status.getRight? = some (.ok sampleAnswer)))
    (by decide +kernel)
  obtain ⟨hnone, hpos, hstatus⟩ := of_decide_eq_true hP
  obtain ⟨-, hone, -, -⟩ := accepted_of_trace htrace (fun _ => true)
  have hle := hone hnone
  exact ⟨es, rest, htrace, Sum.getRight?_eq_some_iff.mp hstatus, by omega⟩

/-- **A lost acknowledgement is followed by a second transaction.** The node accepts the first
broadcast and its answer is lost; the outputs that are read by force pay for another transaction,
which is accepted as well. Both embed the raw transaction. -/
theorem acceptedTwice_of_lostAck :
    ∃ es rest, Program.Trace (submitPayload sampleSubmission : Submission sampleBuilder _) es rest ∧
      (∀ e ∈ es, BuildsWith e) ∧ rest.status = .inr (.ok sampleAnswer) ∧
      (broadcastsOf (fun n => n = 0) es).accepted = [sampleBuilt true, sampleBuilt false] ∧
      (sampleBuilt true).id ≠ (sampleBuilt false).id ∧
      ∀ forceRefresh, Embeds sampleSubmission.rawTxBytes (sampleBuilt forceRefresh) := by
  obtain ⟨es, rest, htrace, hbuilds, hP⟩ := exists_trace_of_any
    (sampleAttemptCalls 11 (sampleAttempt false (.error "connection lost")) ++
      sampleAttemptCalls 10 (sampleAttempt true (.ok sampleTxId)))
    (fun es rest => isAccepted (broadcastsOf (fun n => n = 0) es).accepted
        [sampleBuilt true, sampleBuilt false] &&
      decide (rest.status.getRight? = some (.ok sampleAnswer)))
    (by decide +kernel)
  obtain ⟨hacc, hstatus⟩ := Bool.and_eq_true_iff.mp hP
  exact ⟨es, rest, htrace, hbuilds, Sum.getRight?_eq_some_iff.mp (of_decide_eq_true hstatus),
    eq_of_isAccepted hacc, by decide +kernel, embeds_sampleBuilt⟩

end Sample

end FoundryIgra
