import FoundryIgra.Submitter.AcceptedBroadcasts
import FoundryIgra.Transport.Lifecycle

/-!
# Lifecycle records and the broadcast

`submit_payload` mines, signs and broadcasts in one call, and the transport records the states that
name these steps when it has returned (`transport.rs`). So while it runs, and until the records are
made, the row of an accepted transaction is still in a state before signing. A row lags at no other
point of the request that wrote it last.

## Main definitions

* `TxLifecycleState.isPreSigning`: the states before signing.
* `Lagging`: the calls before which a row lags.
* `Submits`: the calls of `submit_payload` that a request has made.

## Main results

* `preSigning_iff_lagging`: when the row of an accepted transaction is in a state before signing.
* `lostAcks_of_failed`: after a failed submission it lags only if an acknowledgement was lost.
-/

namespace FoundryIgra

open Rust Store Concurrency

/-- The states before signing. -/
def Store.TxLifecycleState.isPreSigning : TxLifecycleState → Bool
  | receivedRawL2 => true
  | staleReplacementCandidate => true
  | kaspaUnsignedCreated => true
  | kaspaPrefixMined => true
  | _ => false

/-- The submitter has returned a failure. -/
def Progress.Failed (g : Progress) : Prop := ∃ err, g.answer = some (.error err)

/-- The calls before which the row of an accepted transaction lags: the submission is not over, or
what it returned is not recorded yet. -/
def Lagging (g : Progress) : TransportOp → Prop
  | .leaveSubmit _ => True
  | .persist _ u => u.state = .kaspaPrefixMined ∨ u.state = .kaspaSigned ∨
      u.state = .failedRecoverable ∧ g.Failed
  | _ => False

/-- The state of the last record of a request whose submission has begun. -/
def LastState (g : Progress) (P : TxLifecycleState → Prop) : Prop :=
  g.entered = true → ∃ u, g.lastWrite = some u ∧ P u.state

/-- What holds at the calls of a tracked request. -/
def LagsAt (g : Progress) (op : TransportOp) : Prop :=
  LastState g fun state => state.isPreSigning = true ↔ Lagging g op

/-- What holds at the end of the inner block: only a failure is not recorded yet. -/
structure Recorded (result : Except TransportError ResponsePacket) (g : Progress) : Prop where
  lastState : LastState g fun state => state.isPreSigning = true ↔ g.Failed
  ok : ∀ packet, result = .ok packet → g.entered = true → ¬g.Failed

section Rules

variable {lib : Externals} {self : IgraTransport} {rawSend : RawSendRequest}
  {tracked : TrackedSend} {g : Progress}

theorem lastState_of_not_entered {P : TxLifecycleState → Prop} (h : g.entered = false) :
    LastState g P := by
  intro hentered
  rw [h] at hentered
  cases hentered

theorem lagging_persist_failure {errText : String} :
    Lagging g (.persist tracked.store (tracked.failure errText)) ↔ g.Failed := by
  constructor
  · rintro (h | h | ⟨-, h⟩)
    · cases h
    · cases h
    · exact h
  · exact fun h => Or.inr (Or.inr ⟨rfl, h⟩)

/-- The records of a submission that succeeded; the row lags before the first two. -/
theorem lagsAt_recordSubmission {inOrderSubmit : Bool} {observation : ReplacementObservation}
    {result : IgraSubmitResult} {post : Unit → Progress → Prop} {u : TxLifecycleUpdate}
    (hwrote : g.lastWrite = some u) (hu : u.state = .kaspaUnsignedCreated)
    (hpost : ∀ w : TxLifecycleUpdate, w.state = .kaspaBroadcasted →
      post () { g with lastWrite := some w }) :
    Holds LagsAt post (recordSubmission tracked inOrderSubmit observation result) g := by
  refine holds_bind.mpr (holds_persist (fun _ => ⟨u, hwrote, ?_⟩) ?_)
  · rw [hu]
    exact iff_of_true rfl (Or.inl rfl)
  refine holds_bind.mpr (holds_persist (fun _ => ⟨_, rfl, ?_⟩) ?_)
  · exact iff_of_true rfl (Or.inr (Or.inl rfl))
  refine holds_bind.mpr (holds_persist (fun _ => ⟨_, rfl, ?_⟩) ?_)
  · refine iff_of_false Bool.false_ne_true ?_
    rintro (h | h | ⟨h, -⟩) <;> cases h
  cases inOrderSubmit with
  | false => exact hpost _ rfl
  | true =>
    refine holds_bind.mpr (holds_call (fun _ => ⟨_, rfl, ?_⟩) fun _ _ => hpost _ rfl)
    exact iff_of_false Bool.false_ne_true id

/-- The part from the unsigned record on. -/
theorem lagsAt_submit {txIdPrefix : String} {inOrderSubmit : Bool}
    {observation : ReplacementObservation} (h : g.entered = false) :
    Holds LagsAt Recorded
      (submit lib self rawSend txIdPrefix (some tracked) inOrderSubmit observation) g := by
  refine holds_bind.mpr (holds_persist (lastState_of_not_entered h) ?_)
  refine holds_bind.mpr (holds_call (lastState_of_not_entered h) fun _ _ => ?_)
  refine holds_bind.mpr (holds_call (fun _ => ⟨_, rfl, iff_of_true rfl trivial⟩) fun a _ => ?_)
  match a with
  | .error err =>
    exact ⟨fun _ => ⟨_, rfl, iff_of_true rfl ⟨err, rfl⟩⟩, fun _ h => by cases h⟩
  | .ok result =>
    have hok : ∀ w : Option TxLifecycleUpdate,
        ¬Progress.Failed ⟨g.grant, g.refusal, true, some (.ok result), w, g.released⟩ := by
      rintro w ⟨err, herr⟩
      cases herr
    refine holds_bind.mpr (lagsAt_recordSubmission rfl rfl fun w hw => ?_)
    refine ⟨fun _ => ⟨w, rfl, ?_⟩, fun _ _ _ => hok _⟩
    rw [hw]
    exact iff_of_false Bool.false_ne_true (hok _)

theorem recorded_of_not_entered {result : Except TransportError ResponsePacket}
    (h : g.entered = false) : Recorded result g := by
  refine ⟨lastState_of_not_entered h, fun _ _ hentered => ?_⟩
  rw [h] at hentered
  cases hentered

theorem lagsAt_sendRawTransaction :
    Holds LagsAt (fun outcome g' => Recorded outcome.2 g')
      (sendRawTransaction lib self rawSend (some tracked)) .start := by
  have hlags : ∀ g : Progress, g.entered = false → ∀ op, LagsAt g op :=
    fun g hg _ => lastState_of_not_entered hg
  rw [sendRawTransaction]
  cases self.txIdPrefix with
  | none => exact recorded_of_not_entered rfl
  | some txIdPrefix =>
    refine holds_bind.mpr (holds_persist (hlags _ rfl _) ?_)
    refine holds_bind.mpr (holds_acquire (hlags _ rfl _) (fun _ => hlags _ rfl _) ?_ ?_ ?_)
    · intro now ordering
      refine holds_bind.mpr (holds_recordObservation (fun _ _ => hlags _ rfl _) fun w => ?_)
      exact holds_bind.mpr (lagsAt_submit rfl)
    · exact holds_bind.mpr (holds_persist (hlags _ rfl _) (recorded_of_not_entered rfl))
    · exact fun e => holds_bind.mpr (holds_persist (hlags _ rfl _) (recorded_of_not_entered rfl))

/-- The tail leaves no record open. -/
theorem lastState_concluded {result : Except TransportError ResponsePacket}
    (h : Recorded result g) :
    LastState (g.concluded tracked result) fun state => state.isPreSigning = false := by
  intro hentered
  cases result with
  | ok packet =>
    obtain ⟨u, hwrote, hu⟩ := h.lastState hentered
    exact ⟨u, hwrote, Bool.eq_false_iff.mpr (hu.not.mpr (h.ok packet rfl hentered))⟩
  | error errText => exact ⟨_, rfl, rfl⟩

/-- **Requests.** A row lags at no other call of its request, and not after it. -/
theorem lagsAt_request {stamp : RequestStamp} {packet : RequestPacket}
    (h : self.tracked lib stamp packet = some tracked) :
    Holds LagsAt (fun _ g' => LastState g' fun state => state.isPreSigning = false)
      (self.request lib stamp packet) .start := by
  refine holds_request_of_tracked h (fun _ => lagsAt_sendRawTransaction) ?_
  rintro ⟨acquired, result⟩ g hrecorded
  have hlast : LastState (g.concluded tracked result) fun state => state.isPreSigning = false :=
    lastState_concluded hrecorded
  refine holds_finish (fun errText _ hentered => ?_) (fun _ hentered => ?_) hlast
  · obtain ⟨u, hwrote, hu⟩ := hrecorded.lastState hentered
    exact ⟨u, hwrote, hu.trans lagging_persist_failure.symm⟩
  · obtain ⟨u, hwrote, hu⟩ := hlast hentered
    exact ⟨u, hwrote, iff_of_false (by simp [hu]) id⟩

end Rules

/-! ### Sessions -/

/-- The calls that request `i` has made inside `submit_payload`: none before it is called, then a
trace of it for the request it was handed, and all of the trace when it has returned. -/
structure Submits {kaspa : KaspaExternals} (c : SessionConf) (i : ℕ)
    (es : List (SubmitOps kaspa).Event) : Prop where
  not_entered : (progress c i).entered = false → es = []
  trace : ∀ request, (⟨.enterSubmit request, ()⟩ : TransportOps.Event) ∈ c.own i →
    ∃ rest, Program.Trace (submitPayload request) es rest ∧
      ∀ result, (progress c i).answer = some result → rest.status = .inr result

section Sessions

variable {lib : Externals} {kaspa : KaspaExternals} {calls : ℕ → RequestCall} {w : World}
  {c : SessionConf} {i : ℕ} {es : List (SubmitOps kaspa).Event} {lost : ℕ → Bool}

/-- A request that had a transaction accepted has called `submit_payload`. -/
theorem entered_of_accepted (hes : Submits c i es) (hacc : (broadcastsOf lost es).accepted ≠ []) :
    (progress c i).entered = true := by
  by_contra hentered
  rw [hes.not_entered (Bool.eq_false_iff.mpr hentered)] at hacc
  exact hacc rfl

/-- The last record of a tracked request lags exactly before the calls that are named. -/
theorem Session.lastState (h : Session lib calls w c) {t : TrackedSend}
    (ht : (calls i).tracked lib = some t) :
    LastState (progress c i) fun state => state.isPreSigning = true ↔
      ∃ op, (c.thread i).status = .inl op ∧ Lagging (progress c i) op := by
  intro hentered
  cases hstatus : (c.thread i).status with
  | inl op =>
    have hpending : LagsAt (progress c i) op :=
      Reachable.pending h machine_succeeds (lagsAt_request ht) hstatus
    obtain ⟨u, hwrote, hu⟩ := hpending hentered
    refine ⟨u, hwrote, hu.trans ⟨fun hop => ⟨op, rfl, hop⟩, ?_⟩⟩
    rintro ⟨_, ⟨⟩, hop⟩
    exact hop
  | inr result =>
    have hreturned : LastState (progress c i) fun state => state.isPreSigning = false :=
      Reachable.returned h machine_succeeds (lagsAt_request ht) hstatus
    obtain ⟨u, hwrote, hu⟩ := hreturned hentered
    refine ⟨u, hwrote, iff_of_false (Bool.eq_false_iff.mp hu) ?_⟩
    rintro ⟨op, hop, -⟩
    cases hop

/-- **When a row lags behind the broadcast.** The row of a hash is that of the request that wrote
it last. Once the node has accepted a transaction of this request, the row is in a state before
signing exactly while `submit_payload` has not returned, or what it returned is not recorded. -/
theorem preSigning_iff_lagging (h : Session lib calls w c) {hash : String} {x : Write}
    (hx : lastPersist hash c.history = some x) (hes : Submits c x.tid es)
    (hacc : (broadcastsOf lost es).accepted ≠ []) :
    ∃ record, loadTx c.world.db hash = .ok (some record) ∧
      (record.state.isPreSigning = true ↔
        ∃ op, (c.thread x.tid).status = .inl op ∧ Lagging (progress c x.tid) op) := by
  have hlast := h.lastWrites
  obtain ⟨attempts, createdAtMs, now, hload⟩ := hlast.record hash x hx
  obtain ⟨hwrote, t, ht, -⟩ := hlast.writer hash x hx
  obtain ⟨u, hu, hstate⟩ := h.lastState ht (entered_of_accepted hes hacc)
  rw [hwrote] at hu
  obtain rfl := Option.some.inj hu
  exact ⟨_, hload, hstate⟩

/-- After a submission that failed, a transaction was accepted only if its acknowledgement was
lost. -/
theorem lostAcks_of_failed (hes : Submits c i es) {request : IgraSubmitRequest}
    (hentered : (⟨.enterSubmit request, ()⟩ : TransportOps.Event) ∈ c.own i)
    (hfailed : (progress c i).Failed) (hacc : (broadcastsOf lost es).accepted ≠ []) :
    (broadcastsOf lost es).lostAcks ≠ 0 := by
  obtain ⟨err, herr⟩ := hfailed
  obtain ⟨rest, htrace, hreturned⟩ := hes.trace request hentered
  have haccounts := accounts_of_trace htrace lost (hreturned _ herr)
  rw [← haccounts.error err rfl]
  exact List.length_pos_iff.mpr hacc |>.ne'

end Sessions

/-! ### A session that is cut off -/

section Sample

/-- A call of `submit_payload` is for the transaction of the session. -/
def entersSample (e : TransportOps.Event) : Bool :=
  match e.1 with
  | .enterSubmit request => request = sampleSubmission
  | _ => true

/-- A submission of the transaction goes with a request of the session. -/
theorem submits_of_trace {c : SessionConf} {i : ℕ} {es : List (SubmitOps sampleBuilder).Event}
    {rest : Submission sampleBuilder (Except String IgraSubmitResult)}
    (htrace : Program.Trace (submitPayload sampleSubmission) es rest)
    (hentered : (progress c i).entered = true) (hown : (c.own i).all entersSample = true)
    (hanswer : ∀ result, (progress c i).answer = some result → rest.status = .inr result) :
    Submits c i es := by
  refine ⟨fun hnot => ?_, fun request hmem => ⟨rest, ?_, hanswer⟩⟩
  · rw [hentered] at hnot
    cases hnot
  · obtain rfl : request = sampleSubmission :=
      of_decide_eq_true (List.all_eq_true.mp hown _ hmem)
    exact htrace

/-- Request 0 of the session has made the calls `es` inside `submit_payload`, and the node has
accepted a transaction that embeds the raw transaction. -/
structure AcceptsSample (c : SessionConf) (es : List (SubmitOps sampleBuilder).Event) : Prop where
  session : Session sampleExternals sampleCalls sampleWorld c
  submits : Submits c 0 es
  builds : ∀ e ∈ es, BuildsWith e
  accepted : (broadcastsOf (fun _ => false) es).accepted = [sampleBuilt false]
  embeds : Embeds sampleRawTx (sampleBuilt false)

/-- The submission is cut off after its broadcast. -/
theorem exists_accepted_trace : ∃ es rest,
    Program.Trace (submitPayload sampleSubmission : Submission sampleBuilder _) es rest ∧
      (∀ e ∈ es, BuildsWith e) ∧
      (broadcastsOf (fun _ => false) es).accepted = [sampleBuilt false] := by
  obtain ⟨es, rest, htrace, hbuilds, hP⟩ := exists_trace_of_any
    (sampleAttemptCalls 11 (sampleAttempt false (.ok sampleTxId)))
    (fun es _ => isAccepted (broadcastsOf (fun _ => false) es).accepted [sampleBuilt false])
    (by decide +kernel)
  exact ⟨es, rest, htrace, hbuilds, eq_of_isAccepted hP⟩

/-- The submission returns after its broadcast. -/
theorem exists_returned_trace : ∃ es rest,
    Program.Trace (submitPayload sampleSubmission : Submission sampleBuilder _) es rest ∧
      (∀ e ∈ es, BuildsWith e) ∧
      (broadcastsOf (fun _ => false) es).accepted = [sampleBuilt false] ∧
      rest.status = .inr (.ok sampleAnswer) := by
  obtain ⟨es, rest, htrace, hbuilds, hP⟩ := exists_trace_of_any
    (sampleAttemptCalls 13 (sampleAttempt false (.ok sampleTxId)))
    (fun es rest => isAccepted (broadcastsOf (fun _ => false) es).accepted [sampleBuilt false] &&
      decide (rest.status.getRight? = some (.ok sampleAnswer)))
    (by decide +kernel)
  obtain ⟨hacc, hstatus⟩ := Bool.and_eq_true_iff.mp hP
  exact ⟨es, rest, htrace, hbuilds, eq_of_isAccepted hacc,
    Sum.getRight?_eq_some_iff.mp (of_decide_eq_true hstatus)⟩

/-- A submission that has returned goes with the first request of the session. -/
theorem exists_acceptsSample {c : SessionConf}
    (hc : Session sampleExternals sampleCalls sampleWorld c)
    (hentered : (progress c 0).entered = true) (hown : (c.own 0).all entersSample = true)
    (hanswer : (progress c 0).answer = some (.ok sampleAnswer)) : ∃ es, AcceptsSample c es := by
  obtain ⟨es, rest, htrace, hbuilds, hacc, hrest⟩ := exists_returned_trace
  refine ⟨es, hc, submits_of_trace htrace hentered hown fun result hresult => ?_, hbuilds, hacc,
    embeds_sampleBuilt false⟩
  obtain rfl := Option.some.inj (hanswer.symm.trans hresult)
  exact hrest

/-- A request that has run to its end leaves no row that lags. -/
theorem preSigning_iff_lagging_returned : ∃ c es, AcceptsSample c es ∧
    ∃ record, loadTx c.world.db sampleHash = .ok (some record) ∧
      record.state.isPreSigning = false := by
  obtain ⟨c, hc, hP⟩ := exists_session_of_any sampleExternals sampleCalls sampleWorld
    (sampleMoves 0 11 1700000000000 (.ok sampleAnswer))
    (fun c => decide ((c.thread 0).status = .inr (.ok sampleResponse) ∧
      (lastPersist sampleHash c.history).map Write.tid = some 0 ∧
      (progress c 0).entered = true ∧ (c.own 0).all entersSample = true ∧
      (progress c 0).answer = some (.ok sampleAnswer)))
    (by decide +kernel)
  obtain ⟨hstatus, htid, hentered, hown, hanswer⟩ := of_decide_eq_true hP
  obtain ⟨es, hes⟩ := exists_acceptsSample hc hentered hown hanswer
  obtain ⟨x, hx, hxtid⟩ := Option.map_eq_some_iff.mp htid
  have hacc : (broadcastsOf (fun _ => false) es).accepted ≠ [] :=
    hes.accepted ▸ List.cons_ne_nil _ _
  obtain ⟨record, hload, hstate⟩ :=
    preSigning_iff_lagging hc hx (hxtid ▸ hes.submits) hacc
  refine ⟨c, es, hes, record, hload, Bool.eq_false_iff.mpr fun hpre => ?_⟩
  obtain ⟨op, hop, -⟩ := hstate.mp hpre
  rw [hxtid, hstatus] at hop
  cases hop

/-- **A row that lags.** The node has accepted the transaction of the first request, which has not
returned from `submit_payload`; and after it has returned, a second request for the transaction
overwrites the row. -/
theorem preSigning_after_accepted :
    (∃ c es, AcceptsSample c es ∧
      ∃ record, loadTx c.world.db sampleHash = .ok (some record) ∧
        record.state.isPreSigning = true) ∧
    ∃ c es, AcceptsSample c es ∧ (c.thread 0).status = .inr (.ok sampleResponse) ∧
      ∃ record, loadTx c.world.db sampleHash = .ok (some record) ∧
        record.state.isPreSigning = true := by
  constructor
  · obtain ⟨c, hc, hP⟩ := exists_session_of_any sampleExternals sampleCalls sampleWorld
      (sampleMoves 0 5 1700000000000 (.ok sampleAnswer))
      (fun c => decide ((progress c 0).entered = true ∧ (c.own 0).all entersSample = true ∧
        (progress c 0).answer = none ∧
        ((loadTx c.world.db sampleHash).toOption.getD none).any fun r => r.state.isPreSigning))
      (by decide +kernel)
    obtain ⟨hentered, hown, hanswer, hrecord⟩ := of_decide_eq_true hP
    obtain ⟨es, rest, htrace, hbuilds, hacc⟩ := exists_accepted_trace
    have hes : Submits c 0 es := submits_of_trace htrace hentered hown fun result hresult => by
      rw [hanswer] at hresult
      cases hresult
    exact ⟨c, es, ⟨hc, hes, hbuilds, hacc, embeds_sampleBuilt false⟩, exists_record_of_any hrecord⟩
  · obtain ⟨c, hc, hP⟩ := exists_session_of_any sampleExternals sampleCalls sampleWorld
      (sampleMoves 0 11 1700000000000 (.ok sampleAnswer) ++
        .tick (1700000002001 : ℕ) :: sampleMoves 1 1 1700000002001 (.ok sampleAnswer))
      (fun c => decide ((c.thread 0).status = .inr (.ok sampleResponse) ∧
        (progress c 0).entered = true ∧ (c.own 0).all entersSample = true ∧
        (progress c 0).answer = some (.ok sampleAnswer) ∧
        ((loadTx c.world.db sampleHash).toOption.getD none).any fun r => r.state.isPreSigning))
      (by decide +kernel)
    obtain ⟨hstatus, hentered, hown, hanswer, hrecord⟩ := of_decide_eq_true hP
    obtain ⟨es, hes⟩ := exists_acceptsSample hc hentered hown hanswer
    exact ⟨c, es, hes, hstatus, exists_record_of_any hrecord⟩

end Sample

end FoundryIgra
