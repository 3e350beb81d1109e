import FoundryIgra.Transport.History

/-!
# Lifecycle records of a session

Every transition overwrites the row of its hash, so the row is the one of the last write of the
hash in the history, whichever request made it. While no request for a hash is in flight, the
last writer has returned and the row is the last record of that request.

## Main definitions

* `lastPersist`: the last write of a hash in a history.
* `LastWrites`: the rows are the last writes.
* `InFlight`: a request is in flight.

## Main results

* `Session.lastWrites`: the rows of every session are its last writes.
* `broadcast_kept`: the row of a hash while no request for it is in flight.
-/

namespace FoundryIgra

open Rust Store Concurrency

/-! ### The last write of a hash -/

/-- A write: the request that made it, its store and its update. -/
structure Write where
  tid : ℕ
  store : IgraStore
  update : TxLifecycleUpdate

/-- The write of `hash` that an entry is. -/
def persistOf (hash : String) (x : Entry TransportOps World) : Option Write :=
  match x.event.1 with
  | .persist store update => if update.l2TxHash = hash then some ⟨x.tid, store, update⟩ else none
  | _ => none

/-- The last write of `hash` in a history. -/
def lastPersist (hash : String) (history : List (Entry TransportOps World)) : Option Write :=
  history.findSome? (persistOf hash)

/-- The tables hold the records of the last writes, and the last write of a hash is the last write
of the request that made it. -/
structure LastWrites (lib : Externals) (calls : ℕ → RequestCall) (c : SessionConf) : Prop where
  record : ∀ hash x, lastPersist hash c.history = some x → ∃ attempts createdAtMs now,
    loadTx c.world.db hash = .ok (some (x.update.record x.store attempts createdAtMs now))
  writer : ∀ hash x, lastPersist hash c.history = some x →
    (progress c x.tid).lastWrite = some x.update ∧
      ∃ t, (calls x.tid).tracked lib = some t ∧ t.l2TxHash = hash
  written : ∀ i t, (calls i).tracked lib = some t → (progress c i).lastWrite ≠ none →
    ∃ x, lastPersist t.l2TxHash c.history = some x

/-- Only a write changes what is read back. -/
theorem loadTx_effect {clock : ℕ} {db db' : Db} {op : TransportOp} {a : op.Ans}
    (heff : Effect clock db db' op a) (hop : ∀ store update, op ≠ .persist store update) :
    loadTx db' = loadTx db := by
  refine loadTx_congr ?_
  rcases effect_cases heff with rfl | ⟨store, u, now, rfl, -⟩ | ⟨t, now, -, -, -, hgrants⟩ |
    ⟨_, _, _, _, _, -, -, -, rfl⟩ | ⟨_, _, _, -, rfl⟩
  · rfl
  · exact absurd rfl (hop store u)
  · exact hgrants.tables.2.1
  · rfl
  · rfl

/-- Only a write changes the last write of a request. -/
theorem lastWrite_after {g : Progress} {op : TransportOp} {a : op.Ans}
    (hop : ∀ store update, op ≠ .persist store update) :
    (g.after op a).lastWrite = g.lastWrite := by
  rcases g.after_cases op a with heq | ⟨store, u, rfl, -⟩ | ⟨_, _, _, _, -, -, heq⟩ | ⟨_, -, heq⟩ |
    ⟨_, -, heq⟩ | ⟨_, _, -, heq⟩ | ⟨_, _, _, -, heq⟩
  case inr.inl => exact absurd rfl (hop store u)
  all_goals rw [heq]

theorem persistOf_eq_none {hash : String} {x : Entry TransportOps World}
    (hop : ∀ store update, x.event.1 ≠ .persist store update) : persistOf hash x = none := by
  rw [persistOf]
  split
  next store update hx => exact absurd hx (hop store update)
  next => rfl

section Sessions

variable {lib : Externals} {calls : ℕ → RequestCall} {w : World} {c c' : SessionConf}

/-- A write of a request becomes the last write of its hash. -/
theorem LastWrites.persist (hlast : LastWrites lib calls c) {j : ℕ} {store : IgraStore}
    {update : TxLifecycleUpdate}
    {k : TransportOp.Out (.persist store update) →
      Request (Except TransportError ResponsePacket)}
    {a : TransportOp.Ans (.persist store update)} {w' : World}
    (hans : Answered lib calls c j (.persist store update) a w') :
    LastWrites lib calls (c.attempt j (.persist store update) k a w') := by
  obtain ⟨t, ht, hstore, hhash⟩ : ∃ t, (calls j).tracked lib = some t ∧ store = t.store ∧
      update.l2TxHash = t.l2TxHash := by
    have hinv := hans.invariant
    cases ht : (calls j).tracked lib with
    | none => simp [ht, CallInvariant, LeavesStore] at hinv
    | some t =>
      rw [ht] at hinv
      exact ⟨t, rfl, hinv.1, hinv.2⟩
  obtain rfl : a = .ok () := hans.succeeds
  obtain ⟨now, hdb⟩ := hans.effect
  have hsplit : ∀ hash, lastPersist hash
      (c.attempt j (.persist store update) k (.ok ()) w').history =
        if update.l2TxHash = hash then some ⟨j, store, update⟩
        else lastPersist hash c.history := fun hash => by
    simp only [lastPersist, Conf.attempt]
    rw [List.findSome?_cons]
    simp only [persistOf]
    split_ifs <;> rfl
  have hprogress : ∀ i, (progress (c.attempt j (.persist store update) k (.ok ()) w') i).lastWrite =
      if j = i then some update else (progress c i).lastWrite := fun i => by
    have h := congrArg Progress.lastWrite (progress_attempt c j i (.persist store update) k
      (.ok ()) w')
    rw [apply_ite Progress.lastWrite] at h
    exact h
  refine ⟨fun hash x hx => ?_, fun hash x hx => ?_, fun i u hu hwrote => ?_⟩
  · rw [hsplit] at hx
    show ∃ attempts createdAtMs now, loadTx w'.db hash = _
    rw [hdb, loadTx_persistTransition]
    split_ifs at hx ⊢ with h
    · obtain rfl := Option.some_inj.mp hx
      exact ⟨_, _, _, rfl⟩
    · exact hlast.record hash x hx
  · rw [hsplit] at hx
    rw [hprogress]
    split_ifs at hx with h
    · obtain rfl := Option.some_inj.mp hx
      exact ⟨if_pos rfl, t, ht, hhash.symm.trans h⟩
    · obtain ⟨hwrote, u, hu, huhash⟩ := hlast.writer hash x hx
      have hne : j ≠ x.tid := fun heq => by
        rw [← heq, ht] at hu
        obtain rfl := Option.some_inj.mp hu
        exact h (hhash.trans huhash)
      exact ⟨(if_neg hne).trans hwrote, u, hu, huhash⟩
  · rw [hprogress] at hwrote
    rw [hsplit]
    split_ifs with h
    · exact ⟨_, rfl⟩
    · have hne : j ≠ i := fun heq => by
        rw [← heq, ht] at hu
        obtain rfl := Option.some_inj.mp hu
        exact h hhash
      exact hlast.written i u hu (by rwa [if_neg hne] at hwrote)

/-- Any other call leaves the last writes. -/
theorem LastWrites.other (hlast : LastWrites lib calls c) {j : ℕ} {op : TransportOp}
    {k : op.Out → Request (Except TransportError ResponsePacket)} {a : op.Ans} {w' : World}
    (hans : Answered lib calls c j op a w') (hop : ∀ store update, op ≠ .persist store update) :
    LastWrites lib calls (c.attempt j op k a w') := by
  have hload : loadTx (c.attempt j op k a w').world.db = loadTx c.world.db :=
    loadTx_effect hans.effect hop
  have hsame : ∀ hash, lastPersist hash (c.attempt j op k a w').history =
      lastPersist hash c.history := fun hash => by
    simp only [lastPersist, Conf.attempt]
    rw [List.findSome?_cons, persistOf_eq_none hop]
  have hprogress : ∀ i, (progress (c.attempt j op k a w') i).lastWrite =
      (progress c i).lastWrite := fun i => by
    rw [progress_attempt]
    split_ifs
    · exact lastWrite_after hop
    · rfl
  refine ⟨fun hash x hx => ?_, fun hash x hx => ?_, fun i t ht hwrote => ?_⟩
  · rw [hsame] at hx
    rw [hload]
    exact hlast.record hash x hx
  · rw [hsame] at hx
    rw [hprogress]
    exact hlast.writer hash x hx
  · rw [hprogress] at hwrote
    rw [hsame]
    exact hlast.written i t ht hwrote

/-- The rows of every session are its last writes. -/
theorem Session.lastWrites (h : Session lib calls w c) : LastWrites lib calls c := by
  refine Reachable.invariant h (P := LastWrites lib calls) ⟨fun _ _ hx => ?_, fun _ _ hx => ?_,
    fun _ _ _ hwrote => absurd rfl hwrote⟩ fun d d' m hd hlast hm => ?_
  · cases hx
  · cases hx
  rcases Session.step_cases hd hm with ⟨clock, -, rfl⟩ | ⟨j, op, k, a, w', -, rfl, hans⟩
  · exact ⟨hlast.record, hlast.writer, hlast.written⟩
  · by_cases hop : ∃ store update, op = .persist store update
    · obtain ⟨store, update, rfl⟩ := hop
      exact hlast.persist hans
    · exact hlast.other hans fun store update heq => hop ⟨store, update, heq⟩

/-! ### Rows at rest -/

/-- Request `i` is for `hash` and is in flight: it has made a call and has not returned. -/
def InFlight (lib : Externals) (calls : ℕ → RequestCall) (c : SessionConf) (hash : String)
    (i : ℕ) : Prop :=
  (∃ t, (calls i).tracked lib = some t ∧ t.l2TxHash = hash) ∧ c.own i ≠ [] ∧
    ∃ op, (c.thread i).status = .inl op

/-- A request that wrote and is not in flight has returned. -/
theorem returned_of_lastWrite {hash : String} {i : ℕ} {t : TrackedSend}
    (hidle : ¬InFlight lib calls c hash i) (ht : (calls i).tracked lib = some t)
    (hhash : t.l2TxHash = hash) {update : TxLifecycleUpdate}
    (hwrote : (progress c i).lastWrite = some update) :
    ∃ result, (c.thread i).status = .inr result := by
  cases hstatus : (c.thread i).status with
  | inr result => exact ⟨result, rfl⟩
  | inl op =>
    obtain ⟨x, hx, hxi, -⟩ :=
      exists_of_progress (Q := fun g => g.lastWrite = some update) nofun hwrote
    have hmem : x.event ∈ c.own i := Conf.mem_own.mpr ⟨x, hx, hxi, rfl⟩
    exact absurd ⟨⟨t, ht, hhash⟩, List.ne_nil_of_mem hmem, op, hstatus⟩ hidle

/-- **The row of a broadcast hash.** Once a request for a hash has succeeded, whenever no request
for it is in flight its row is the one of the request that wrote last, which has returned: a
broadcast with the transaction id that the submitter returned to that request, if it succeeded,
and no broadcast and no id, if it failed (a recoverable failure, unless its acquisition was
refused). -/
theorem broadcast_kept (h : Session lib calls w c) {hash : String} {i : ℕ} {t : TrackedSend}
    {packet : ResponsePacket} (ht : (calls i).tracked lib = some t) (hhash : t.l2TxHash = hash)
    (hok : (c.thread i).status = .inr (.ok packet))
    (hidle : ∀ j, ¬InFlight lib calls c hash j) :
    ∃ x t' result record, lastPersist hash c.history = some x ∧
      (calls x.tid).tracked lib = some t' ∧ t'.l2TxHash = hash ∧
      (c.thread x.tid).status = .inr result ∧ loadTx c.world.db hash = .ok (some record) ∧
      (∀ packet, result = .ok packet → record.state = .kaspaBroadcasted ∧
        ∃ y ∈ c.history, y.tid = x.tid ∧
          ∃ r, Returned r y ∧ record.kaspaTxId = some r.kaspaTxId) ∧
      ∀ errText, result = .error errText →
        record.state ≠ .kaspaBroadcasted ∧ record.kaspaTxId = none ∧
          ((progress c x.tid).refusal = none → record.state = .failedRecoverable) := by
  have hlast := h.lastWrites
  obtain ⟨_, _, _, -, -, hwrote⟩ := (h.returned hok t ht).broadcasted packet rfl
  obtain ⟨x, hx⟩ := hlast.written i t ht (by simp [hwrote])
  rw [hhash] at hx
  obtain ⟨hxwrote, t', ht', hhash'⟩ := hlast.writer hash x hx
  obtain ⟨result, hresult⟩ := returned_of_lastWrite (hidle x.tid) ht' hhash' hxwrote
  obtain ⟨attempts, createdAtMs, now, hload⟩ := hlast.record hash x hx
  have hfinal := h.returned hresult t' ht'
  refine ⟨x, t', result, _, hx, ht', hhash', hresult, hload, ?_, ?_⟩
  · intro packet' hpacket
    obtain ⟨r, now', ordering, hanswer, -, hwrote'⟩ := hfinal.broadcasted packet' hpacket
    rw [hxwrote] at hwrote'
    rw [Option.some_inj.mp hwrote']
    obtain ⟨y, hy, hyx, hyr⟩ := exists_returned hanswer
    exact ⟨rfl, y, hy, hyx, r, hyr, rfl⟩
  · intro errText herr
    have hwrote' := hfinal.failed errText herr
    rw [hxwrote] at hwrote'
    rw [Option.some_inj.mp hwrote']
    exact ⟨TxLifecycleState.noConfusion, rfl, fun _ => rfl⟩

end Sessions

/-! ### The session of one transaction -/

/-- The response to a request of the session. -/
def sampleResponse : ResponsePacket := .single ⟨.number 1, .success ("\"" ++ sampleHash ++ "\"")⟩

/-- No request of the session is in flight once the first has returned and the second has, or has
not begun. -/
theorem not_inFlight_of_returned {c : SessionConf}
    {result₀ : Except TransportError ResponsePacket} (h₀ : (c.thread 0).status = .inr result₀)
    (h₁ : (∃ result₁, (c.thread 1).status = .inr result₁) ∨ c.own 1 = []) (i : ℕ) :
    ¬InFlight sampleExternals sampleCalls c sampleHash i := by
  rintro ⟨⟨t, ht, -⟩, hown, op, hop⟩
  match i with
  | 0 =>
    rw [h₀] at hop
    cases hop
  | 1 =>
    rcases h₁ with ⟨result₁, h₁⟩ | h₁
    · rw [h₁] at hop
      cases hop
    · exact hown h₁
  | i + 2 =>
    rw [tracked_sampleCalls_idle] at ht
    cases ht

/-- After the first request of the session its transaction is recorded as broadcast. -/
theorem broadcast_kept_first_request : ∃ c, Session sampleExternals sampleCalls sampleWorld c ∧
    (c.thread 0).status = .inr (.ok sampleResponse) ∧
    ∃ record, loadTx c.world.db sampleHash = .ok (some record) ∧
      record.state = .kaspaBroadcasted := by
  obtain ⟨c, hc, hP⟩ := exists_session_of_any sampleExternals sampleCalls sampleWorld
    (sampleMoves 0 11 1700000000000 (.ok sampleResult))
    (fun c => decide ((c.thread 0).status = .inr (.ok sampleResponse) ∧
      (lastPersist sampleHash c.history).map Write.tid = some 0 ∧ (c.own 1).length = 0))
    (by decide +kernel)
  obtain ⟨hok, htid, hown⟩ := of_decide_eq_true hP
  obtain ⟨x, -, result, record, hx, -, -, hresult, hload, hgood, -⟩ :=
    broadcast_kept hc tracked_sampleCalls_zero (rfl : _ = sampleHash) hok
      (not_inFlight_of_returned hok (Or.inr (List.length_eq_zero_iff.mp hown)))
  rw [hx] at htid
  rw [Option.some_inj.mp htid, hok] at hresult
  exact ⟨c, hc, hok, record, hload, (hgood sampleResponse (Sum.inr.inj hresult).symm).1⟩

/-- **A failed re-send overwrites the record of a broadcast.** -/
theorem broadcast_lost : ∃ c, Session sampleExternals sampleCalls sampleWorld c ∧
    (c.thread 0).status = .inr (.ok sampleResponse) ∧
    (∀ i, ¬InFlight sampleExternals sampleCalls c sampleHash i) ∧
    ∃ record, loadTx c.world.db sampleHash = .ok (some record) ∧
      record.state ≠ .kaspaBroadcasted ∧ record.kaspaTxId = none := by
  obtain ⟨c, hc, hP⟩ := exists_session_of_any sampleExternals sampleCalls sampleWorld
    (sampleMoves 0 11 1700000000000 (.ok sampleResult) ++
      .tick (1700000002001 : ℕ) :: sampleMoves 1 8 1700000002001 (.error "connection refused"))
    (fun c => decide ((c.thread 0).status = .inr (.ok sampleResponse) ∧
      (c.thread 1).status = .inr (.error "connection refused") ∧
      ((loadTx c.world.db sampleHash).toOption.getD none).any
        fun r => r.state ≠ .kaspaBroadcasted ∧ r.kaspaTxId = none))
    (by decide +kernel)
  obtain ⟨hok, herr, hrecord⟩ := of_decide_eq_true hP
  obtain ⟨record, hload, hlost⟩ := exists_record_of_any hrecord
  exact ⟨c, hc, hok, not_inFlight_of_returned hok (Or.inl ⟨_, herr⟩), record, hload,
    of_decide_eq_true hlost⟩

end FoundryIgra
