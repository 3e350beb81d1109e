import FoundryIgra.Store.Profile
import FoundryIgra.Store.Retention
import FoundryIgra.Transport.Course
import FoundryIgra.Transport.History

/-!
# Deployments

Sessions of concurrent requests in the surroundings they run in: the store may fail at any of its
calls, and other processes open the same database file while requests are in flight. A read-write
open is its own transactions (`store.rs`, `from_config`), between which the requests run: the
migration, the reconciliation of the profile, and the deletes of the pruning.

## Main definitions

* `Upkeep`, `Upkeep.apply`: the clock, and the transactions of an open.
* `deployment`, `Deployment`: the machine and its reachable configurations.
* `Fails`, `Served`: what a failing call answers, and what an answered call did.
* `course`: the course of a request in a configuration.

## Main results

* `leads_open`: a whole open is a run of its transactions.
* `deployment_step_cases`: what a move can do.
* `Deployment.exists_before`: every entry was an answered call of its request.
* `Session.deployment`: a session is a deployment without failures.
-/

namespace FoundryIgra

open Relational Rust Store Concurrency

/-! ### Opening a store while requests run -/

/-- What happens to the world besides the calls of requests. -/
inductive Upkeep
  /-- The clock is raised. -/
  | clock (t : ℕ)
  /-- `migrate`. -/
  | migrate
  /-- `reconcile_profile_cache`. -/
  | reconcile (store : IgraStore)
  /-- One of the deletes of `prune_cache`; which rows it takes is left open. -/
  | deleteRows (doomed : TxMapRow → Bool)

/-- The database without the rows of `tx_map` that a delete takes. -/
def deleteRows (db : Db) (doomed : TxMapRow → Bool) : Db :=
  { db with txMap := db.txMap.deleteWhere doomed }

/-- The world after an upkeep; only stores in `opens` are opened. -/
def Upkeep.apply (opens : IgraStore → Bool) (w : World) : Upkeep → Option World
  | clock t => if w.clock ≤ t then some { w with clock := t } else none
  | migrate => some { w with db := Store.migrate w.db }
  | reconcile store =>
    if opens store then some { w with db := reconcileProfileCache store w.db } else none
  | deleteRows doomed => some { w with db := FoundryIgra.deleteRows w.db doomed }

/-- The machine of a deployment. -/
def deployment (mayFail : Bool) (opens : IgraStore → Bool) : Machine TransportOps World where
  Tick := Upkeep
  tick u w := u.apply opens w
  Oracle := Oracle
  answer := (machine mayFail).answer

theorem deleteRows_deleteRows (db : Db) (p q : TxMapRow → Bool) :
    deleteRows (deleteRows db p) q = deleteRows db fun r => p r || q r := by
  simp only [deleteRows, Table.deleteWhere_deleteWhere]

theorem exists_deleteWhere_evict (maxBytes : UInt64) (fileSize : ℕ → UInt64) (k : ℕ)
    (t : Table TxMapRow.l2TxHash) :
    ∃ doomed, evict maxBytes fileSize k t = t.deleteWhere doomed := by
  fun_induction evict maxBytes fileSize k t with
  | case1 k t => exact ⟨_, (Table.deleteWhere_false t).symm⟩
  | case2 k t => exact ⟨_, (Table.deleteWhere_false t).symm⟩
  | case3 k t _ _ ih =>
    obtain ⟨doomed, h⟩ := ih
    rw [h, deleteBatch, Table.deleteWhere_deleteWhere]
    exact ⟨_, rfl⟩

/-- Pruning is a delete. -/
theorem exists_deleteRows_pruneCache (store : IgraStore) (now : UInt64) (fileSize : ℕ → UInt64)
    (db : Db) : ∃ doomed, pruneCache store now fileSize db = deleteRows db doomed := by
  have hbudget : ∀ db, ∃ doomed, enforceSizeBudget store fileSize db = deleteRows db doomed := by
    intro db
    rw [enforceSizeBudget]
    split_ifs
    · exact ⟨fun _ => false, by simp [deleteRows]⟩
    · exact ⟨fun _ => false, by simp [deleteRows]⟩
    · obtain ⟨doomed, h⟩ := exists_deleteWhere_evict store.maxBytes fileSize 1 db.txMap
      exact ⟨doomed, by rw [h, deleteRows]⟩
  obtain ⟨doomed, h⟩ := hbudget (retentionDeletes store now db)
  have hretention : ∃ old, retentionDeletes store now db = deleteRows db old :=
    ⟨_, deleteRows_deleteRows ..⟩
  obtain ⟨old, hold⟩ := hretention
  rw [pruneCache_eq, h, hold, deleteRows_deleteRows]
  exact ⟨_, rfl⟩

/-- **An open is a run of its transactions.** -/
theorem leads_open {mayFail : Bool} {opens : IgraStore → Bool} {store : IgraStore}
    (hopens : opens store = true) (now : UInt64) (fileSize : ℕ → UInt64) (c : SessionConf) :
    Leads (deployment mayFail opens) c
      { c with world := { c.world with db := initializeCache store now fileSize c.world.db } } := by
  obtain ⟨doomed, hdoomed⟩ := exists_deleteRows_pruneCache store now fileSize
    (reconcileProfileCache store (migrate c.world.db))
  refine ⟨[.tick (M := deployment mayFail opens) Upkeep.migrate,
    .tick (M := deployment mayFail opens) (.reconcile store),
    .tick (M := deployment mayFail opens) (.deleteRows doomed)], ?_⟩
  simp [Conf.play, Conf.move, deployment, Upkeep.apply, hopens, initializeCache, hdoomed]

/-! ### What a move can do -/

/-- What a failing store answers: an SQLite or I/O error, where the call can tell. -/
def Fails : (op : TransportOp) → op.Ans → Prop
  | .persist _ _, a => ∃ err, a = .error err
  | .startAcquire _, a => ∃ err : IgraStoreError, err.code = none ∧ a = .error err
  | .pollLock _ _, a => ∃ err, err.code = none ∧ a.result = .error err
  | .markSubmitted _ _ _, a => ∃ err, a = .error err
  | .release _ _ _, a => ∃ err, a = .error err
  | _, _ => True

/-- What an answered call of a deployment did: what it does without failures, or nothing. -/
structure Served (mayFail : Bool) (w w' : World) (op : TransportOp) (a : op.Ans) : Prop where
  clock : w'.clock = w.clock
  effect : Succeeds op a ∧ Effect w.clock w.db w'.db op a ∨
    mayFail = true ∧ w'.db = w.db ∧ Fails op a
  advance : mayFail = false → ∀ store sender nonce, op = .markSubmitted store sender nonce →
    nonce ≠ u64Max → ∃ now, markSubmittedInOrderNonce w.db sender nonce now = .ok w'.db

/-- Without failures of the store every advance below `u64::MAX` is made. -/
theorem advance_of_answer {o : Oracle} {i : ℕ} {w w' : World} {store : IgraStore}
    {sender : String} {nonce : UInt64} {a : (TransportOp.markSubmitted store sender nonce).Ans}
    (h : (machine false).answer o i w (.markSubmitted store sender nonce) = some (a, w'))
    (hmax : nonce ≠ u64Max) :
    ∃ now, markSubmittedInOrderNonce w.db sender nonce now = .ok w'.db := by
  simp only [machine] at h
  split_ifs at h with hclock
  cases hf : o.fault with
  | some err => simp [hf] at h
  | none =>
    simp only [hf, Option.some.injEq, Prod.mk.injEq, serve] at h
    obtain ⟨-, rfl⟩ := h
    refine ⟨o.now, ?_⟩
    cases hm : markSubmittedInOrderNonce w.db sender nonce o.now with
    | ok db' => rfl
    | error err => exact absurd (markSubmittedInOrderNonce_error hm).1 hmax

theorem served_of_answer {mayFail : Bool} {o : Oracle} {i : ℕ} {w w' : World}
    {op : TransportOp} {a : op.Ans} (h : (machine mayFail).answer o i w op = some (a, w')) :
    Served mayFail w w' op a := by
  cases hf : o.fault with
  | none =>
    have hsame : (machine mayFail).answer o i w op = (machine false).answer o i w op := by
      simp only [machine, hf]
    have hanswer := hsame.symm.trans h
    obtain ⟨hclock, hsucc, heff⟩ := answer_cases hanswer
    refine ⟨hclock, Or.inl ⟨hsucc, heff⟩, ?_⟩
    rintro - store sender nonce rfl hmax
    exact advance_of_answer (i := i) hanswer hmax
  | some err =>
    simp only [machine, hf] at h
    split_ifs at h with hclock hfail
    obtain ⟨rfl, rfl⟩ := Prod.mk.inj (Option.some_inj.mp h)
    refine ⟨rfl, Or.inr ⟨hfail.1, rfl, ?_⟩, fun hsure => absurd hfail.1 (by simp [hsure])⟩
    cases op with
    | innerCall packet => trivial
    | persist store update => exact ⟨err, rfl⟩
    | startAcquire store => exact ⟨err, hfail.2, rfl⟩
    | pollLock t deadlineMs => exact ⟨err, hfail.2, rfl⟩
    | enterSubmit request => trivial
    | leaveSubmit request => trivial
    | markSubmitted store sender nonce => exact ⟨err, rfl⟩
    | release store sender ownerId => exact ⟨err, rfl⟩

/-- `c` is reached by the requests `calls` from the world `w` in a deployment. -/
def Deployment (mayFail : Bool) (opens : IgraStore → Bool) (lib : Externals)
    (calls : ℕ → RequestCall) (w : World) (c : SessionConf) : Prop :=
  Reachable (deployment mayFail opens) (fun i => (calls i).program lib) w c

section Deployments

variable {mayFail : Bool} {opens : IgraStore → Bool} {lib : Externals} {calls : ℕ → RequestCall}
  {w : World} {c c' : SessionConf}

/-- **What a move can do.** It is an upkeep, or answers a call of one request. -/
theorem deployment_step_cases {m : Move (deployment mayFail opens)}
    (hm : c.move (deployment mayFail opens) m = some c') :
    (∃ u w', Upkeep.apply opens c.world u = some w' ∧ c' = { c with world := w' }) ∨
      ∃ i op k a w', c.thread i = .call op k ∧ c' = c.attempt i op k a w' ∧
        Served mayFail c.world w' op a := by
  rcases Conf.move_cases hm with ⟨u, w', hu, rfl⟩ | ⟨i, o, op, k, a, w', hi, ha, rfl⟩
  · exact Or.inl ⟨u, w', hu, rfl⟩
  · exact Or.inr ⟨i, op, k, a, w', hi, rfl, served_of_answer (i := i) ha⟩

/-- What an upkeep does to the expected nonces and the locks: nothing, unless a reconciliation
finds another profile. -/
theorem Upkeep.tables {u : Upkeep} {w w' : World} (h : u.apply opens w = some w') :
    w'.db.senderNonceState = w.db.senderNonceState ∧ w'.db.senderLocks = w.db.senderLocks ∨
      ∃ store, u = .reconcile store ∧ opens store = true ∧ profileChanged store w.db = true ∧
        w'.db = reconcileProfileCache store w.db := by
  cases u with
  | clock t =>
    simp only [Upkeep.apply] at h
    split_ifs at h
    rw [← Option.some_inj.mp h]
    exact Or.inl ⟨rfl, rfl⟩
  | migrate =>
    rw [← Option.some_inj.mp h]
    exact Or.inl (setMetadataValue_frame ..).2
  | reconcile store =>
    simp only [Upkeep.apply] at h
    split_ifs at h with hopens
    rw [← Option.some_inj.mp h]
    obtain ⟨-, hnonce, hlocks⟩ := reconcileProfileCache_tables store w.db
    by_cases hchanged : profileChanged store w.db = true
    · exact Or.inr ⟨store, rfl, hopens, hchanged, rfl⟩
    · rw [if_neg hchanged] at hnonce hlocks
      exact Or.inl ⟨hnonce, hlocks⟩
  | deleteRows doomed =>
    rw [← Option.some_inj.mp h]
    exact Or.inl ⟨rfl, rfl⟩

/-- A session is a deployment without failures, whatever may be opened. -/
theorem Session.deployment (h : Session lib calls w c) :
    Deployment false opens lib calls w c := by
  refine Leads.of_machine (fun t w w' ht => ⟨.clock t, ht⟩) ?_ h
  exact fun o i w op a w' ha => ⟨o, ha⟩

/-- What request `i` has done, with the state it recorded last. -/
def course (c : SessionConf) (i : ℕ) : Course := c.ghost Course.step Course.start i

theorem course_attempt (c : SessionConf) (i j : ℕ) (op : TransportOp)
    (k : op.Out → Request (Except TransportError ResponsePacket)) (a : op.Ans) (w' : World) :
    course (c.attempt i op k a w') j =
      if i = j then (course c j).step ⟨op, a⟩ else course c j :=
  Conf.ghost_attempt ..

theorem course_progress (c : SessionConf) (i : ℕ) : (course c i).progress = progress c i := by
  rw [course, progress, Conf.ghost, Conf.ghost]
  induction c.own i with
  | nil => rfl
  | cons e es ih =>
    rw [List.foldr_cons, List.foldr_cons, ← ih]
    rfl

/-- The assertion at the pending call of a request. -/
theorem Deployment.pending (h : Deployment mayFail opens lib calls w c) {i : ℕ} {op : TransportOp}
    (ho : (c.thread i).status = .inl op) :
    CourseInvariant ((calls i).tracked lib) (course c i) op :=
  Reachable.pending h (fun _ _ _ _ _ _ _ => trivial)
    (always_request_any (calls i).stamp (calls i).packet) ho

/-- The assertion at the return of a request. -/
theorem Deployment.returned (h : Deployment mayFail opens lib calls w c) {i : ℕ}
    {result : Except TransportError ResponsePacket} (hr : (c.thread i).status = .inr result) :
    CourseEnds ((calls i).tracked lib) result (course c i) :=
  Reachable.returned h (fun _ _ _ _ _ _ _ => trivial)
    (always_request_any (calls i).stamp (calls i).packet) hr

/-- What is known of an answered call. -/
structure Known (mayFail : Bool) (lib : Externals) (calls : ℕ → RequestCall) (c : SessionConf)
    (i : ℕ) (op : TransportOp) (a : op.Ans) (w' : World) : Prop
    extends Served mayFail c.world w' op a where
  invariant : CourseInvariant ((calls i).tracked lib) (course c i) op

/-- **What a move can do**, with the assertion at the answered call. -/
theorem Deployment.step_cases {m : Move (deployment mayFail opens)}
    (h : Deployment mayFail opens lib calls w c)
    (hm : c.move (deployment mayFail opens) m = some c') :
    (∃ u w', Upkeep.apply opens c.world u = some w' ∧ c' = { c with world := w' }) ∨
      ∃ i op k a w', c.thread i = .call op k ∧ c' = c.attempt i op k a w' ∧
        Known mayFail lib calls c i op a w' := by
  rcases deployment_step_cases hm with hu | ⟨i, op, k, a, w', hi, rfl, hserved⟩
  · exact Or.inl hu
  · exact Or.inr ⟨i, op, k, a, w', hi, rfl, hserved, h.pending (by rw [hi]; rfl)⟩

/-- **Every entry was an answered call of its request**, in the configuration with the history
before it. -/
theorem Deployment.exists_before (h : Deployment mayFail opens lib calls w c)
    {later earlier : List (Entry TransportOps World)} {x : Entry TransportOps World}
    (hx : c.history = later ++ x :: earlier) :
    ∃ d, Deployment mayFail opens lib calls w d ∧ d.history = earlier ∧ d.world = x.before ∧
      Known mayFail lib calls d x.tid x.event.1 x.event.2 x.after := by
  refine Reachable.invariant h (P := fun c => ∀ later earlier x,
    c.history = later ++ x :: earlier → ∃ d, Deployment mayFail opens lib calls w d ∧
      d.history = earlier ∧ d.world = x.before ∧
        Known mayFail lib calls d x.tid x.event.1 x.event.2 x.after)
    (fun later earlier x hx => by simp [Conf.start] at hx) (fun d d' m hd hall hm => ?_) _ _ _ hx
  rcases Deployment.step_cases hd hm with ⟨u, w', -, rfl⟩ | ⟨i, op, k, a, w', -, rfl, hknown⟩
  · exact hall
  · intro later earlier x hsplit
    cases later with
    | cons y later => exact hall later earlier x (List.cons.inj hsplit).2
    | nil =>
      obtain ⟨rfl, rfl⟩ := List.cons.inj hsplit
      exact ⟨d, hd, rfl, rfl, hknown⟩

end Deployments

/-! ### Deployments of the sample session -/

/-- The next `n` calls of request `i`, at the reading `now`, without failures. -/
def deploymentMoves {mayFail : Bool} {opens : IgraStore → Bool} (i n : ℕ) (now : UInt64)
    (submit : Except String IgraSubmitResult) : List (Move (deployment mayFail opens)) :=
  List.replicate n (.run i (sampleOracle now submit))

/-- The configuration that a schedule leads to. -/
theorem exists_deployment_of_any {mayFail : Bool} {opens : IgraStore → Bool} (lib : Externals)
    (calls : ℕ → RequestCall) (w : World) (ms : List (Move (deployment mayFail opens)))
    (P : SessionConf → Bool)
    (h : ((Conf.start (fun i => (calls i).program lib) w).play (deployment mayFail opens) ms).any
      P = true) : ∃ c, Deployment mayFail opens lib calls w c ∧ P c = true := by
  obtain ⟨c, hc, hP⟩ := (Option.any_eq_true ..).mp h
  exact ⟨c, ⟨ms, hc⟩, hP⟩

end FoundryIgra
