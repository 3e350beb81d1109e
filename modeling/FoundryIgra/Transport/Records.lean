import FoundryIgra.Store.ProfileIsolation
import FoundryIgra.Transport.Deployment
import FoundryIgra.Transport.Lifecycle

/-!
# Lifecycle records of a deployment

Whatever fails, whatever is opened or pruned and however the requests interleave: the records that
one request writes follow one another in the order of the lifecycle, at most one of them counts an
attempt, and the last one names the result; and every record that can be read back carries exactly
the columns of its state and names a request for its hash.

## Main definitions

* `recordedStates`, `InOrder`: the states that a request recorded.
* `TxMapRecord.WellFormed`, `WrittenFor`, `Readable`: the records that can be read back.

## Main results

* `recordedStates_inOrder`: the lifecycle of one request.
* `records_wellFormed`: the records of a deployment.
-/

namespace FoundryIgra

open Relational Rust Store Concurrency

/-! ### The records of one request -/

/-- The state of the record that an entry of request `i` tried to write. -/
def recordedState (i : ℕ) (x : Entry TransportOps World) : Option TxLifecycleState :=
  match x.event.1 with
  | .persist _ u => if x.tid = i then some u.state else none
  | _ => none

/-- The states that request `i` recorded, most recent first. -/
def recordedStates (i : ℕ) (history : List (Entry TransportOps World)) : List TxLifecycleState :=
  history.filterMap (recordedState i)

/-- Every state, most recent first, is one of the next states of the one before it. -/
def InOrder : List TxLifecycleState → Prop
  | [] => True
  | s :: earlier => s ∈ nextStates earlier.head? ∧ InOrder earlier

/-- After a failure nothing is recorded, so at most one of the states is a failure. -/
theorem InOrder.not_mem_failedRecoverable {states : List TxLifecycleState} {s : TxLifecycleState}
    (h : InOrder (s :: states)) : .failedRecoverable ∉ states := by
  induction states generalizing s with
  | nil => exact List.not_mem_nil
  | cons s' states ih =>
    intro hmem
    rcases List.mem_cons.mp hmem with rfl | hmem
    · exact absurd h.1 List.not_mem_nil
    · exact ih h.2 hmem

theorem recordedState_other {i : ℕ} {x : Entry TransportOps World}
    (h : x.tid ≠ i ∨ ∀ store u, x.event.1 ≠ .persist store u) : recordedState i x = none := by
  rw [recordedState]
  split
  next store u hx => exact if_neg (h.resolve_right fun hop => hop store u hx)
  next => rfl

/-- The state that names a result. -/
def finalState : Except TransportError ResponsePacket → TxLifecycleState
  | .ok _ => .kaspaBroadcasted
  | .error _ => .failedRecoverable

section Deployments

variable {mayFail : Bool} {opens : IgraStore → Bool} {lib : Externals} {calls : ℕ → RequestCall}
  {w : World} {c : SessionConf} {i : ℕ}

/-- The course of a request holds the state of its last record. -/
theorem course_recorded (c : SessionConf) (i : ℕ) :
    (course c i).recorded = (recordedStates i c.history).head? := by
  rw [course, Conf.ghost, Conf.own, recordedStates]
  induction c.history with
  | nil => rfl
  | cons x history ih =>
    by_cases hx : x.tid = i
    · rw [List.filter_cons_of_pos (by simpa using hx), List.map_cons, List.foldr_cons]
      obtain ⟨tid, ⟨op, a⟩, before, after⟩ := x
      obtain rfl : tid = i := hx
      cases op with
      | persist store u => simp [Course.step, Course.recordedAfter, recordedState]
      | _ => exact ih
    · rw [List.filter_cons_of_neg (by simpa using hx),
        List.filterMap_cons_none (recordedState_other (Or.inl hx))]
      exact ih

/-- **The lifecycle of one request.** The states that a request records follow one another in the
lifecycle, and when it has returned, the last of them names its result. -/
theorem recordedStates_inOrder (h : Deployment mayFail opens lib calls w c) (i : ℕ) :
    InOrder (recordedStates i c.history) ∧
      ∀ t result, (calls i).tracked lib = some t → (c.thread i).status = .inr result →
        (recordedStates i c.history).head? = some (finalState result) := by
  constructor
  · refine Reachable.invariant h (P := fun c => InOrder (recordedStates i c.history)) trivial
      fun d d' m hd hall hm => ?_
    rcases Deployment.step_cases hd hm with ⟨u, w', -, rfl⟩ | ⟨j, op, k, a, w', -, rfl, hknown⟩
    · exact hall
    · show InOrder (List.filterMap (recordedState i) (_ :: d.history))
      by_cases hop : j = i ∧ ∃ store u, op = .persist store u
      · obtain ⟨rfl, store, u, rfl⟩ := hop
        have hinv := hknown.invariant
        cases ht : (calls j).tracked lib with
        | none => simp [ht, CourseInvariant, CourseLeaves, LeavesStore] at hinv
        | some t =>
          rw [ht] at hinv
          obtain ⟨-, -, hnext⟩ := hinv
          rw [course_recorded] at hnext
          rw [List.filterMap_cons_some (b := u.state) (by simp [recordedState])]
          exact ⟨hnext, hall⟩
      · rw [List.filterMap_cons_none]
        · exact hall
        · refine recordedState_other ?_
          by_cases hji : j = i
          · exact Or.inr fun store u heq => hop ⟨hji, store, u, heq⟩
          · exact Or.inl hji
  · intro t result ht hr
    obtain ⟨hok, herr⟩ := h.returned hr t ht
    rw [← course_recorded]
    cases result with
    | ok packet => exact (hok packet rfl).1
    | error errText => exact herr errText rfl

/-! ### The records that can be read back -/

/-- The columns of the record go with its state. -/
def Store.TxMapRecord.WellFormed (r : TxMapRecord) : Prop :=
  Coherent r.state r.payloadNonce r.kaspaTxId r.lastErrorCode r.lastErrorMessage

/-- The record was written for the tracked send. -/
structure WrittenFor (t : TrackedSend) (r : TxMapRecord) : Prop where
  l2TxHash : r.l2TxHash = t.l2TxHash
  sender : r.sender = t.sender
  l2Nonce : r.l2Nonce = t.l2Nonce
  correlationId : r.correlationId = t.correlationId
  profile : r.profile = t.store.profile

/-- Every hash can be read back, and the record is well formed: a record of a request for the hash,
or one of the records `db₀`. -/
def Readable (lib : Externals) (calls : ℕ → RequestCall) (db₀ db : Db) : Prop :=
  ∀ hash, ∃ o, loadTx db hash = .ok o ∧ ∀ r, o = some r → r.WellFormed ∧
    ((∃ i t, (calls i).tracked lib = some t ∧ t.l2TxHash = hash ∧ WrittenFor t r) ∨
      loadTx db₀ hash = .ok (some r))

/-- An upkeep changes what is read back by deleting rows only. -/
theorem loadTx_upkeep {u : Upkeep} {v v' : World} (hu : u.apply opens v = some v') (hash : String) :
    loadTx v'.db hash = loadTx v.db hash ∨ loadTx v'.db hash = .ok none := by
  have hfind : v'.db.txMap.find? hash = v.db.txMap.find? hash ∨
      v'.db.txMap.find? hash = none := by
    cases u with
    | clock t =>
      simp only [Upkeep.apply] at hu
      split_ifs at hu
      obtain rfl := Option.some_inj.mp hu
      exact Or.inl rfl
    | migrate =>
      obtain rfl := Option.some_inj.mp hu
      exact Or.inl (congrArg (Table.find? · hash) (setMetadataValue_frame ..).1)
    | reconcile store =>
      simp only [Upkeep.apply] at hu
      split_ifs at hu
      obtain rfl := Option.some_inj.mp hu
      rw [(reconcileProfileCache_tables store v.db).1]
      split_ifs
      · exact Or.inr rfl
      · exact Or.inl rfl
    | deleteRows doomed =>
      obtain rfl := Option.some_inj.mp hu
      simp only [deleteRows, Table.find?_deleteWhere]
      cases hr : v.db.txMap.find? hash with
      | none => exact Or.inl rfl
      | some r => by_cases hp : doomed r = true <;> simp [hp]
  rcases hfind with heq | hnone
  · exact Or.inl (by rw [loadTx, loadTx, heq])
  · exact Or.inr (by rw [loadTx, hnone])

theorem Readable.upkeep {db₀ : Db} {u : Upkeep} {v v' : World}
    (h : Readable lib calls db₀ v.db) (hu : u.apply opens v = some v') :
    Readable lib calls db₀ v'.db := fun hash => by
  rcases loadTx_upkeep hu hash with heq | hnone
  · rw [heq]
    exact h hash
  · refine ⟨none, hnone, ?_⟩
    rintro r ⟨⟩

/-- A record that a request writes can be read back. -/
theorem Readable.persist {db₀ db : Db} (h : Readable lib calls db₀ db) {i : ℕ} {t : TrackedSend}
    (ht : (calls i).tracked lib = some t) {u : TxLifecycleUpdate} (hu : RecordOf t u)
    (now : UInt64) : Readable lib calls db₀ (persistTransition t.store db u now) := fun hash => by
  rw [loadTx_persistTransition]
  split_ifs with hhash
  · refine ⟨_, rfl, fun r hr => ?_⟩
    obtain rfl := Option.some_inj.mp hr
    exact ⟨hu.coherent, Or.inl ⟨i, t, ht, hu.l2TxHash.symm.trans hhash,
      hu.l2TxHash, hu.sender, hu.l2Nonce, hu.correlationId, rfl⟩⟩
  · exact h hash

/-- **What an answered call does to the records**: one record is written for the tracked send of its
request, or what can be read back stays. -/
theorem Known.record_cases {op : TransportOp} {a : op.Ans} {w' : World}
    (h : Known mayFail lib calls c i op a w') :
    (∃ t u now, (calls i).tracked lib = some t ∧ op = .persist t.store u ∧ RecordOf t u ∧
      w'.db = persistTransition t.store c.world.db u now) ∨
    loadTx w'.db = loadTx c.world.db := by
  rcases h.effect with ⟨-, heff⟩ | ⟨-, hsame, -⟩
  swap
  · exact Or.inr (by rw [hsame])
  by_cases hop : ∃ store u, op = .persist store u
  swap
  · exact Or.inr (loadTx_effect heff fun store u heq => hop ⟨store, u, heq⟩)
  obtain ⟨store, u, rfl⟩ := hop
  have hinv := h.invariant
  cases ht : (calls i).tracked lib with
  | none => simp [ht, CourseInvariant, CourseLeaves, LeavesStore] at hinv
  | some t =>
    rw [ht] at hinv
    obtain ⟨rfl, hu, -⟩ := hinv
    obtain ⟨now, hdb⟩ := heff
    exact Or.inl ⟨t, u, now, rfl, rfl, hu, hdb⟩

/-- **The records of a deployment.** Where every hash could be read back well formed at first, every
hash can be read back at any time, whatever failed, was opened or was pruned: its record is well
formed, and it is one of the first records or names a request for the hash. -/
theorem records_wellFormed (h : Deployment mayFail opens lib calls w c)
    (hw : ∀ hash, ∃ o, loadTx w.db hash = .ok o ∧ ∀ r, o = some r → r.WellFormed) :
    Readable lib calls w.db c.world.db := by
  refine Reachable.invariant h (P := fun c => Readable lib calls w.db c.world.db)
    (fun hash => ?_) fun d d' m hd hall hm => ?_
  · obtain ⟨o, ho, hwell⟩ := hw hash
    refine ⟨o, ho, fun r hr => ⟨hwell r hr, Or.inr ?_⟩⟩
    rw [← hr]
    exact ho
  · rcases Deployment.step_cases hd hm with ⟨u, w', hu, rfl⟩ | ⟨j, op, k, a, w', -, rfl, hknown⟩
    · exact hall.upkeep hu
    · show Readable lib calls w.db w'.db
      rcases hknown.record_cases with ⟨t, u, now, ht, -, hu, hdb⟩ | hload
      · rw [hdb]
        exact hall.persist ht hu now
      · intro hash
        rw [hload]
        exact hall hash

end Deployments

/-! ### A request that cannot write its first record -/

/-- The first record of the first request of the sample session cannot be written. -/
def fullDiskMoves : List (Move (deployment true fun _ => false)) :=
  .run 0 { sampleOracle 1700000000000 (.ok sampleResult) with fault := some (.io "disk full") } ::
    deploymentMoves 0 10 1700000000000 (.ok sampleResult)

/-- The request succeeds all the same. -/
theorem exists_deployment_full_disk : ∃ c,
    Deployment true (fun _ => false) sampleExternals sampleCalls sampleWorld c ∧
      (c.thread 0).status = .inr (.ok sampleResponse) ∧
      (recordedStates 0 c.history).length = 5 := by
  obtain ⟨c, hc, hP⟩ := exists_deployment_of_any sampleExternals sampleCalls sampleWorld
    fullDiskMoves (fun c => decide ((c.thread 0).status = .inr (.ok sampleResponse) ∧
      (recordedStates 0 c.history).length = 5)) (by decide +kernel)
  exact ⟨c, hc, of_decide_eq_true hP⟩

theorem recordedStates_inOrder_full_disk : ∃ c,
    Deployment true (fun _ => false) sampleExternals sampleCalls sampleWorld c ∧
      InOrder (recordedStates 0 c.history) ∧
      (recordedStates 0 c.history).head? = some .kaspaBroadcasted := by
  obtain ⟨c, hc, hok, -⟩ := exists_deployment_full_disk
  obtain ⟨horder, hlast⟩ := recordedStates_inOrder hc 0
  exact ⟨c, hc, horder, hlast _ _ tracked_sampleCalls_zero hok⟩

theorem records_wellFormed_full_disk : ∃ c,
    Deployment true (fun _ => false) sampleExternals sampleCalls sampleWorld c ∧
      ∃ o, loadTx c.world.db sampleHash = .ok o ∧ ∀ r, o = some r → r.WellFormed := by
  obtain ⟨c, hc, -⟩ := exists_deployment_full_disk
  have hempty : ∀ hash, ∃ o, loadTx sampleWorld.db hash = .ok o ∧
      ∀ r, o = some r → r.WellFormed := fun hash => by
    refine ⟨none, rfl, ?_⟩
    rintro r ⟨⟩
  obtain ⟨o, ho, hwell⟩ := records_wellFormed hc hempty sampleHash
  exact ⟨c, hc, o, ho, fun r hr => (hwell r hr).1⟩

end FoundryIgra
