import FoundryIgra.Transport.Composition
import FoundryIgra.Transport.InProcess
import FoundryIgra.Transport.Records

/-!
# Records do not run ahead of the node

A lifecycle record that says that a Kaspa transaction was mined, signed or broadcast is never
written before the node has acknowledged one: it carries the payload nonce of the acknowledged
transaction, and if it names a transaction, the id that the node answered with. This holds of the
transport with the in-process submitter, whatever fails, is opened or is pruned.

## Main definitions

* `Attests`, `Attesting`: what is recorded of a transaction is what the submitter has returned.
* `AttestedBy`, `Attested`: a record is covered by a result of a request.

## Main results

* `attesting_request`: every request attests what it records.
* `Deployment.attested`: the records of a deployment.
* `attested_inProcess`: the records of the whole system.
-/

namespace FoundryIgra

open Relational Rust Store Concurrency

/-! ### What a request records -/

/-- The update says nothing of a Kaspa transaction, or what the submitter has returned. -/
def Attests (made : TransportOps.Event → Prop) (u : TxLifecycleUpdate) : Prop :=
  (u.payloadNonce = none ∧ u.kaspaTxId = none) ∨
    ∃ request r, made ⟨.leaveSubmit request, .ok r⟩ ∧ u.payloadNonce = some r.payloadNonce ∧
      (u.kaspaTxId = none ∨ u.kaspaTxId = some r.kaspaTxId)

/-- The updates that are written attest what they say. -/
def Attesting (made : TransportOps.Event → Prop) : TransportOp → Prop
  | .persist _ u => Attests made u
  | _ => True

theorem monotone_attesting : Monotone (Attesting : Assertion TransportOps) := by
  intro made made' hmade op h
  cases op with
  | persist store u =>
    rcases h with hsilent | ⟨request, r, hr, hsays⟩
    · exact Or.inl hsilent
    · exact Or.inr ⟨request, r, hmade _ hr, hsays⟩
  | _ => trivial

section Requests

variable {es : List TransportOps.Event}

/-- A record without a payload nonce and an id. -/
theorem attesting_silent (t : TrackedSend) (state : TxLifecycleState)
    (code message : Option String) (increment : Bool) : Asserts Attesting (fun _ _ => True)
      (persistTransitionSafe t state none none code message increment) es :=
  asserts_persist (Or.inl ⟨rfl, rfl⟩)

theorem attesting_acquire (t : TrackedSend) :
    Asserts Attesting (fun _ _ => True) (acquire t) es := by
  refine (asserts_transportCall (.startAcquire _) trivial).bind fun a es' _ _ => ?_
  cases a with
  | error err => exact asserts_pure trivial
  | ok now => exact asserts_transportCall (.pollLock ..) trivial

/-- The records of a submission, after its result. -/
theorem attesting_recordSubmission (t : TrackedSend) (inOrderSubmit : Bool)
    (observation : ReplacementObservation) {request : IgraSubmitRequest} {result : IgraSubmitResult}
    (hresult : ⟨.leaveSubmit request, .ok result⟩ ∈ es) : Asserts Attesting (fun _ _ => True)
      (recordSubmission t inOrderSubmit observation result) es := by
  refine (asserts_persist ?_).bind fun _ es₁ hsub₁ _ => ?_
  · exact Or.inr ⟨request, result, hresult, rfl, Or.inl rfl⟩
  refine (asserts_persist ?_).bind fun _ es₂ hsub₂ _ => ?_
  · exact Or.inr ⟨request, result, hsub₁ hresult, rfl, Or.inl rfl⟩
  refine (asserts_persist ?_).bind fun _ es₃ _ _ => ?_
  · exact Or.inr ⟨request, result, hsub₂ (hsub₁ hresult), rfl, Or.inr rfl⟩
  cases inOrderSubmit with
  | false => exact asserts_pure trivial
  | true =>
    exact (asserts_transportCall (.markSubmitted ..) trivial).bind
      fun _ _ _ _ => asserts_pure trivial

variable (lib : Externals) (self : IgraTransport) (rawSend : RawSendRequest)

theorem attesting_submit (txIdPrefix : String) (tracked : Option TrackedSend) (inOrderSubmit : Bool)
    (observation : ReplacementObservation) : Asserts Attesting (fun _ _ => True)
      (submit lib self rawSend txIdPrefix tracked inOrderSubmit observation) es := by
  refine (asserts_forTracked fun t => attesting_silent ..).bind fun _ es₁ _ _ => ?_
  refine (asserts_transportCall (.enterSubmit _) trivial).bind fun _ es₂ _ _ => ?_
  refine asserts_call trivial fun a b hb => ?_
  obtain rfl : a = b := Option.some.inj hb
  cases a with
  | error err => exact asserts_pure trivial
  | ok result =>
    refine (asserts_forTracked fun t => ?_).bind fun _ _ _ _ => asserts_pure trivial
    exact attesting_recordSubmission t inOrderSubmit observation List.mem_cons_self

/-- **Requests.** Every request attests what it records. -/
theorem attesting_request (stamp : RequestStamp) (packet : RequestPacket) :
    Asserts Attesting (fun _ _ => True) (self.request lib stamp packet) es := by
  have hparts : HoldsOfParts lib self (self.tracked lib stamp packet)
      (fun p => ∀ es, Asserts Attesting (fun _ _ => True) p es) :=
    { composes_asserts with
      innerCall := fun _ _ => asserts_transportCall (.innerCall _) trivial
      record := fun _ _ _ _ _ _ => attesting_silent ..
      acquire := fun t _ _ => attesting_acquire t
      submit := fun _ _ _ _ _ _ => attesting_submit ..
      release := fun _ _ => asserts_transportCall (.release ..) trivial }
  exact hparts.request es

end Requests

/-! ### The records -/

/-- The record says nothing of a Kaspa transaction. -/
structure Store.TxMapRecord.Unmined (record : TxMapRecord) : Prop where
  state : record.state ∉ minedStates
  payloadNonce : record.payloadNonce = none
  kaspaTxId : record.kaspaTxId = none

/-- What the record says of a Kaspa transaction is in the result. -/
structure AttestedBy (r : IgraSubmitResult) (record : TxMapRecord) : Prop where
  state : record.state ∈ minedStates
  payloadNonce : record.payloadNonce = some r.payloadNonce
  kaspaTxId : record.kaspaTxId =
    if record.state = .kaspaBroadcasted then some r.kaspaTxId else none

/-- Every record of a Kaspa transaction is attested by a result that was given to a request for its
hash, or is one of the records `db₀`. -/
def Attested (lib : Externals) (calls : ℕ → RequestCall) (given : ℕ → IgraSubmitResult → Prop)
    (db₀ db : Db) : Prop :=
  ∀ hash record, loadTx db hash = .ok (some record) → record.Unmined ∨
    (∃ i t r, (calls i).tracked lib = some t ∧ t.l2TxHash = hash ∧ WrittenFor t record ∧
      given i r ∧ AttestedBy r record) ∨ loadTx db₀ hash = .ok (some record)

/-- The submitter has returned the result to request `i`. -/
def ReturnedTo (c : SessionConf) (i : ℕ) (r : IgraSubmitResult) : Prop :=
  ∃ x ∈ c.history, x.tid = i ∧ Returned r x

section Deployments

variable {mayFail : Bool} {opens : IgraStore → Bool} {lib : Externals} {calls : ℕ → RequestCall}
  {w : World} {c : SessionConf} {given given' : ℕ → IgraSubmitResult → Prop} {db₀ db : Db}

theorem Attested.mono (h : Attested lib calls given db₀ db)
    (hgiven : ∀ i t r, (calls i).tracked lib = some t → given i r → given' i r) :
    Attested lib calls given' db₀ db := fun hash record hload => by
  rcases h hash record hload with hunmined | ⟨i, t, r, ht, hhash, hwritten, hr, hby⟩ | hfirst
  · exact Or.inl hunmined
  · exact Or.inr (Or.inl ⟨i, t, r, ht, hhash, hwritten, hgiven i t r ht hr, hby⟩)
  · exact Or.inr (Or.inr hfirst)

/-- Where no other record can be read back, the records stay attested. -/
theorem Attested.of_loadTx {db' : Db} (h : Attested lib calls given db₀ db)
    (hload : ∀ hash, loadTx db' hash = loadTx db hash ∨ loadTx db' hash = .ok none) :
    Attested lib calls given db₀ db' := fun hash record hrecord => by
  rcases hload hash with heq | hnone
  · exact h hash record (heq.symm.trans hrecord)
  · rw [hnone] at hrecord
    cases hrecord

/-- An update that attests what it says leaves an attested record. -/
theorem attestedBy_record {t : TrackedSend} {u : TxLifecycleUpdate} {r : IgraSubmitResult}
    (hu : RecordOf t u) (hnonce : u.payloadNonce = some r.payloadNonce)
    (htxid : u.kaspaTxId = none ∨ u.kaspaTxId = some r.kaspaTxId) (attempts : UInt32)
    (createdAtMs now : UInt64) : AttestedBy r (u.record t.store attempts createdAtMs now) := by
  refine ⟨hu.coherent.mined.mp (by rw [hnonce]; rfl), hnonce, ?_⟩
  have hbroadcasted := hu.coherent.broadcasted
  show u.kaspaTxId = if u.state = .kaspaBroadcasted then some r.kaspaTxId else none
  rcases htxid with hnone | hsome
  · rw [if_neg fun hstate => ?_, hnone]
    rw [hnone] at hbroadcasted
    cases hbroadcasted.mpr hstate
  · rw [if_pos (hbroadcasted.mp (by rw [hsome]; rfl)), hsome]

theorem unmined_record {t : TrackedSend} {u : TxLifecycleUpdate} (hu : RecordOf t u)
    (hnonce : u.payloadNonce = none) (htxid : u.kaspaTxId = none) (attempts : UInt32)
    (createdAtMs now : UInt64) : (u.record t.store attempts createdAtMs now).Unmined := by
  refine ⟨fun hmined => ?_, hnonce, htxid⟩
  have hsome := hu.coherent.mined.mpr hmined
  rw [hnonce] at hsome
  cases hsome

/-- A record that a request writes is attested. -/
theorem Attested.persist (h : Attested lib calls given db₀ db) {i : ℕ} {t : TrackedSend}
    (ht : (calls i).tracked lib = some t) {u : TxLifecycleUpdate} (hu : RecordOf t u)
    {made : TransportOps.Event → Prop} (hattests : Attests made u)
    (hmade : ∀ request r, made ⟨.leaveSubmit request, .ok r⟩ → given i r) (now : UInt64) :
    Attested lib calls given db₀ (persistTransition t.store db u now) := by
  intro hash record hload
  rw [loadTx_persistTransition] at hload
  split_ifs at hload with hhash
  swap
  · exact h hash record hload
  obtain rfl := Option.some_inj.mp (Except.ok.inj hload)
  rcases hattests with ⟨hnonce, htxid⟩ | ⟨request, r, hr, hnonce, htxid⟩
  · exact Or.inl (unmined_record hu hnonce htxid ..)
  · exact Or.inr (Or.inl ⟨i, t, r, ht, hu.l2TxHash.symm.trans hhash,
      ⟨hu.l2TxHash, hu.sender, hu.l2Nonce, hu.correlationId, rfl⟩, hmade request r hr,
      attestedBy_record hu hnonce htxid ..⟩)

theorem returnedTo_of_own {i : ℕ} {request : IgraSubmitRequest} {r : IgraSubmitResult}
    (h : ⟨.leaveSubmit request, .ok r⟩ ∈ c.own i) : ReturnedTo c i r := by
  obtain ⟨x, hx, hi, hevent⟩ := Conf.mem_own.mp h
  exact ⟨x, hx, hi, request, hevent⟩

/-- The pending call of a request attests what it records. -/
theorem Deployment.attesting (h : Deployment mayFail opens lib calls w c) {i : ℕ}
    {op : TransportOp} {k : op.Out → Request (Except TransportError ResponsePacket)}
    (hi : c.thread i = .call op k) : Attesting (· ∈ c.own i) op :=
  Reachable.asserted monotone_attesting h
    (attesting_request lib (calls i).transport (calls i).stamp (calls i).packet) (by rw [hi]; rfl)

/-- **The records of a deployment** are attested by what the submitter has returned. -/
theorem Deployment.attested (h : Deployment mayFail opens lib calls w c) :
    Attested lib calls (ReturnedTo c) w.db c.world.db := by
  refine Reachable.invariant h (P := fun c => Attested lib calls (ReturnedTo c) w.db c.world.db)
    (fun _ _ hload => Or.inr (Or.inr hload)) fun d d' m hd hall hm => ?_
  rcases Deployment.step_cases hd hm with ⟨u, w', hu, rfl⟩ | ⟨j, op, k, a, w', hj, rfl, hknown⟩
  · exact hall.of_loadTx (loadTx_upkeep hu)
  suffices hnow : Attested lib calls (ReturnedTo d) w.db w'.db by
    refine hnow.mono fun i t r _ => ?_
    rintro ⟨x, hx, hrest⟩
    exact ⟨x, List.mem_cons_of_mem _ hx, hrest⟩
  rcases hknown.record_cases with ⟨t, u, now, ht, rfl, hu, hdb⟩ | hload
  · rw [hdb]
    exact hall.persist ht hu (Deployment.attesting hd hj) (fun _ _ => returnedTo_of_own) now
  · exact hall.of_loadTx fun hash => Or.inl (congrFun hload hash)

end Deployments

/-! ### The whole system -/

/-- **Records do not run ahead of the node.** With the in-process submitter, whatever the store and
the node do: a record that can be read back and says that a Kaspa transaction was mined, signed or
broadcast was there at first, or the node acknowledged a transaction to a request for its hash, and
the record carries the payload nonce of the result and, once it is `KASPA_BROADCASTED`, its id. -/
theorem attested_inProcess {kaspa : KaspaExternals} {V : Type} {mayFail : Bool}
    {opens : IgraStore → Bool} {lib : Externals} {calls : ℕ → RequestCall}
    {N : Machine (SubmitOps kaspa) V} {w : World} {v : V} {c : InProcessConf kaspa V}
    (h : InProcess mayFail opens lib calls N w v c) :
    Attested lib calls (AcknowledgedAs lib calls c) w.db c.world.1.db := by
  obtain ⟨u, hu, hsim⟩ := h.exists_deployment
  rw [← hsim.world]
  refine (Deployment.attested hu).mono fun i t r ht => ?_
  rintro ⟨x, hx, rfl, hr⟩
  obtain ⟨rawSend, hroute⟩ := exists_route_of_tracked ht
  exact acknowledgedAs_of_returned hu hsim hx hr hroute

/-- The record of the hash that a request has broadcast. -/
def broadcastRecord (db : Db) (hash : String) : Option TxMapRecord :=
  (loadTx db hash).toOption.join.filter fun record => record.state = .kaspaBroadcasted

theorem loadTx_of_broadcastRecord {db : Db} {hash : String} {record : TxMapRecord}
    (h : broadcastRecord db hash = some record) :
    loadTx db hash = .ok (some record) ∧ record.state = .kaspaBroadcasted := by
  obtain ⟨hload, hstate⟩ := Option.filter_eq_some_iff.mp h
  refine ⟨?_, of_decide_eq_true hstate⟩
  cases hdb : loadTx db hash with
  | error err =>
    rw [hdb] at hload
    cases hload
  | ok o =>
    rw [hdb] at hload
    exact congrArg Except.ok hload

/-- The record of the request names the transaction that the node acknowledged to it. -/
theorem attested_inProcess_through : ∃ c,
    InProcess false opensSameProfile sampleExternals sampleCalls (submitterMachine sampleKaspa)
        openedWorld (CacheWorld.initial 0) c ∧
      ∃ record i r, loadTx c.world.1.db sampleHash = .ok (some record) ∧
        AcknowledgedAs sampleExternals sampleCalls c i r ∧
        record.kaspaTxId = some r.kaspaTxId := by
  have hplay : ((Conf.start
      (fun i => (inProcess sampleKaspa).expand ((sampleCalls i).program sampleExternals))
      (openedWorld, CacheWorld.initial 0)).play _ (throughMoves 23)).any (fun c =>
        (broadcastRecord c.world.1.db sampleHash).isSome) = true := by decide +kernel
  obtain ⟨c, hc, hP⟩ := (Option.any_eq_true ..).mp hplay
  obtain ⟨record, hrecord⟩ := Option.isSome_iff_exists.mp hP
  obtain ⟨hload, hstate⟩ := loadTx_of_broadcastRecord hrecord
  have h : InProcess false opensSameProfile sampleExternals sampleCalls
      (submitterMachine sampleKaspa) openedWorld (CacheWorld.initial 0) c := ⟨throughMoves 23, hc⟩
  refine ⟨c, h, record, ?_⟩
  rcases attested_inProcess h sampleHash record hload with hunmined | ⟨i, t, r, -, -, -, hr, hby⟩ |
    hfirst
  · refine absurd ?_ hunmined.state
    rw [hstate]
    decide
  · refine ⟨i, r, hload, hr, ?_⟩
    rw [hby.kaspaTxId, if_pos hstate]
  · cases hfirst

end FoundryIgra
