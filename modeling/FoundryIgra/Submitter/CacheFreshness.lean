import FoundryIgra.Submitter.UtxoCache

/-!
# Freshness of cached reads

A submission comes to its store with the epoch it read before it sent its request
(`disciplined_submitPayload`). Over a run the epoch counts the increments, so an unforced store
has entries that were requested after every increment. While the forced stores are fresh too, what
the cache holds was requested after the increment of every completed invalidation, and so is every
cached read.

## Main definitions

* `LoadState`, `LoadPending`: what a submission has read and requested.
* `CacheInvariant`: what holds in every reachable configuration.

## Main results

* `disciplined_submitPayload`: every submission meets `LoadPending` at its calls.
* `freshHits_of_forcedStoresFresh`: when the forced stores are fresh, so are the cached reads.
-/

namespace FoundryIgra

open Rust Concurrency

/-! ### What a submission has read -/

/-- What the current `load_utxos` of a submission has read and requested. -/
structure LoadState where
  read : Option (AtMoment UInt64)
  requested : Option ℕ

namespace LoadState

/-- Nothing was read. -/
def start : LoadState := ⟨none, none⟩

/-- After a call. -/
def after {lib : KaspaExternals} (g : LoadState) : (op : SubmitOp lib) → op.Ans → LoadState
  | .loadEpoch, a => ⟨some a, none⟩
  | .requestUtxos _, requestedAt => { g with requested := some requestedAt }
  | _, _ => g

/-- `after`, as the step of a fold along events. -/
def step {lib : KaspaExternals} (g : LoadState) (e : (SubmitOps lib).Event) : LoadState :=
  g.after e.1 e.2

end LoadState

/-- What holds when a submission makes a call: a request is sent after the epoch was read, and a
store is made with that epoch and with what was requested. -/
def LoadPending {lib : KaspaExternals} (g : LoadState) : SubmitOp lib → Prop
  | .requestUtxos _ => ∃ a, g.read = some a
  | .storeCache _ utxos readEpoch _ =>
    (∃ a, g.read = some a ∧ a.value = readEpoch) ∧ g.requested = some utxos.requestedAt
  | _ => True

section Discipline

variable {lib : KaspaExternals} {α β : Type}

/-- From the load state `g` the program meets `LoadPending` at its calls. -/
def DisciplinedFrom (g : LoadState) (p : Submission lib α) : Prop :=
  Program.wp (I := SubmitOps lib) (fun _ => True) LoadState.step LoadPending (fun _ _ => True) p g

/-- The program meets `LoadPending` at its calls, whatever was read before. -/
structure Disciplined (p : Submission lib α) : Prop where
  holds : ∀ g, DisciplinedFrom g p

theorem Disciplined.pure (a : α) : Disciplined (pure a : Submission lib α) := ⟨fun _ => trivial⟩

theorem Disciplined.bind {p : Submission lib α} {f : α → Submission lib β} (hp : Disciplined p)
    (hf : ∀ a, Disciplined (f a)) : Disciplined (p >>= f) := by
  refine ⟨fun g => (Program.wp_bind ..).mpr ?_⟩
  exact Program.wp_mono (fun _ _ h => h) (fun a g' _ => (hf a).holds g') p g (hp.holds g)

/-- A call that is met by any load state. -/
theorem disciplined_perform (op : SubmitOp lib) (h : ∀ g, LoadPending g op) :
    Disciplined (Submission.perform op) := by
  refine ⟨fun g => ⟨h g, fun a _ => ?_⟩⟩
  cases op <;> trivial

theorem Disciplined.orReturn {r : Except String α} {f : α → Submission lib (Except String β)}
    (h : ∀ a, Disciplined (f a)) : Disciplined (Submission.orReturn r f) := by
  cases r with
  | error err => exact Disciplined.pure _
  | ok a => exact h a

theorem disciplined_invalidateUtxoCache :
    Disciplined (invalidateUtxoCache : Submission lib Unit) :=
  (disciplined_perform .fetchAddEpoch fun _ => trivial).bind fun _ =>
    disciplined_perform .clearCache fun _ => trivial

/-- Reading from the node, with the epoch that was read. -/
theorem disciplined_fetchUtxos {g : LoadState} {a : AtMoment UInt64} (ha : g.read = some a)
    (cacheKey sourceAddress : String) (forceRefresh : Bool) :
    DisciplinedFrom g (fetchUtxos cacheKey sourceAddress a.value forceRefresh :
      Submission lib (Except String (UtxoSet lib))) := by
  refine ⟨⟨a, ha⟩, fun requestedAt _ => ⟨trivial, fun reply _ => ?_⟩⟩
  match reply with
  | .error err => trivial
  | .ok entries => exact ⟨⟨⟨a, ha, rfl⟩, rfl⟩, fun _ _ => trivial⟩

theorem disciplined_loadUtxos (rpcUrl network sourceAddress : String) (forceRefresh : Bool) :
    Disciplined (loadUtxos rpcUrl network sourceAddress forceRefresh :
      Submission lib (Except String (UtxoSet lib))) := by
  refine ⟨fun g => ⟨trivial, fun a _ => ?_⟩⟩
  cases forceRefresh with
  | true => exact disciplined_fetchUtxos rfl _ _ _
  | false =>
    refine ⟨trivial, fun cached _ => ?_⟩
    match cached with
    | some utxos => trivial
    | none => exact disciplined_fetchUtxos rfl _ _ _

variable {next : Submission lib (Except String IgraSubmitResult)}

theorem disciplined_broadcast (hnext : Disciplined next) (forceRefresh : Bool)
    (payloadNonce : UInt64) (transaction : lib.Transaction) :
    Disciplined (broadcast forceRefresh payloadNonce transaction next) := by
  refine disciplined_invalidateUtxoCache.bind fun _ =>
    (disciplined_perform (.submitTransaction transaction) fun _ => trivial).bind fun reply => ?_
  match reply with
  | .ok txId => exact disciplined_invalidateUtxoCache.bind fun _ => Disciplined.pure _
  | .error err =>
    cases forceRefresh with
    | true => exact Disciplined.pure _
    | false => exact hnext

theorem disciplined_buildAndBroadcast (hnext : Disciplined next) (input : BuildInput lib)
    (forceRefresh : Bool) : Disciplined (buildAndBroadcast input forceRefresh next) := by
  refine (disciplined_perform (.buildTransaction input) fun _ => trivial).bind fun joined => ?_
  match joined with
  | .error err => exact Disciplined.pure _
  | .ok built => exact Disciplined.orReturn fun r => disciplined_broadcast hnext ..

theorem disciplined_attempt (hnext : Disciplined next) (request : IgraSubmitRequest)
    (p : Prepared lib) (forceRefresh : Bool) :
    Disciplined (attempt request p forceRefresh next) := by
  refine (disciplined_loadUtxos ..).bind fun loaded => ?_
  match loaded with
  | .error err => exact Disciplined.pure _
  | .ok utxos =>
    show Disciplined (if utxos.entries.isEmpty = true then _ else _)
    split_ifs
    · exact Disciplined.pure _
    · exact hnext
    · exact disciplined_buildAndBroadcast hnext ..

theorem disciplined_attempts (request : IgraSubmitRequest) (p : Prepared lib) :
    Disciplined (attempts request p) :=
  disciplined_attempt (disciplined_attempt (Disciplined.pure _) ..) ..

/-- **Submissions.** Every submission meets `LoadPending` at its calls. -/
theorem disciplined_submitPayload (request : IgraSubmitRequest) :
    Disciplined (submitPayload request : Submission lib (Except String IgraSubmitResult)) := by
  refine Disciplined.orReturn fun l2 => ?_
  show Disciplined (if l2.2.length > igraMaxL2dataBytes then _ else _)
  split_ifs
  · exact Disciplined.pure _
  refine Disciplined.orReturn fun rpcUrl => Disciplined.orReturn fun network => ?_
  refine Disciplined.orReturn fun descriptor => ?_
  refine (disciplined_perform (.resolvePrivateKey request.kaspaWallet) fun _ => trivial).bind
    fun key => ?_
  refine Disciplined.orReturn fun privateKey => Disciplined.orReturn fun sourceAddress => ?_
  refine (disciplined_perform (.connect rpcUrl) fun _ => trivial).bind fun connected => ?_
  match connected with
  | .error err => exact Disciplined.pure _
  | .ok _ => exact Disciplined.orReturn fun txIdPrefix => disciplined_attempts ..

end Discipline

/-! ### What one call does -/

section Calls

variable {lib : KaspaExternals} {o : NodeOracle lib} {w : CacheWorld lib} {op : SubmitOp lib}

/-- Only an increment moves the epoch. -/
theorem toNat_epoch_next : (o.next w op).utxoCacheEpoch.toNat =
    (w.utxoCacheEpoch.toNat +
      if op.cacheStep (o.serve w op).1 = .increment then 1 else 0) % 2 ^ 64 := by
  have hsame : w.utxoCacheEpoch.toNat = w.utxoCacheEpoch.toNat % 2 ^ 64 :=
    (Nat.mod_eq_of_lt w.utxoCacheEpoch.toNat_lt).symm
  cases op with
  | fetchAddEpoch => simp [NodeOracle.next, NodeOracle.serve, SubmitOp.cacheStep]
  | storeCache cacheKey utxos readEpoch forceRefresh =>
    simp only [NodeOracle.next, NodeOracle.serve, SubmitOp.cacheStep, reduceCtorEq, if_false]
    split_ifs <;> exact hsame
  | readCache cacheKey =>
    rw [if_neg]
    · exact hsame
    · simp only [NodeOracle.serve]
      cases w.lookup cacheKey <;> simp [SubmitOp.cacheStep]
  | _ => exact hsame

/-- The cache keeps what it held, unless it is emptied or stored to. -/
theorem utxoCache_next {s : CachedUtxoSet lib} (h : (o.next w op).utxoCache = some s) :
    (w.utxoCache = some s ∧ op.cacheStep (o.serve w op).1 ≠ .clear) ∨
      ∃ cacheKey utxos readEpoch forceRefresh,
        op = .storeCache cacheKey utxos readEpoch forceRefresh ∧
          (forceRefresh = true ∨ w.utxoCacheEpoch = readEpoch) ∧ s.utxos = utxos := by
  cases op with
  | clearCache => cases h
  | storeCache cacheKey utxos readEpoch forceRefresh =>
    simp only [NodeOracle.next, NodeOracle.serve] at h
    split_ifs at h with hstore
    · obtain rfl := Option.some_inj.mp h
      exact Or.inr ⟨cacheKey, utxos, readEpoch, forceRefresh, rfl, hstore, rfl⟩
    · exact Or.inl ⟨h, by simp [SubmitOp.cacheStep]⟩
  | readCache cacheKey =>
    refine Or.inl ⟨h, ?_⟩
    simp only [NodeOracle.serve]
    cases w.lookup cacheKey <;> simp [SubmitOp.cacheStep]
  | _ => exact Or.inl ⟨h, by simp [SubmitOp.cacheStep]⟩

/-- A cached read returns what the cache holds. -/
theorem utxoCache_of_hit {requestedAt : ℕ}
    (h : op.cacheStep (o.serve w op).1 = .hit requestedAt) :
    ∃ s, w.utxoCache = some s ∧ s.utxos.requestedAt = requestedAt := by
  cases op with
  | readCache cacheKey =>
    simp only [NodeOracle.serve] at h
    cases hl : w.lookup cacheKey with
    | none => simp [hl, SubmitOp.cacheStep] at h
    | some utxos =>
      simp only [hl, SubmitOp.cacheStep, CacheStep.hit.injEq] at h
      rw [CacheWorld.lookup] at hl
      split at hl
      next s hs =>
        split_ifs at hl
        obtain rfl := Option.some_inj.mp hl
        exact ⟨s, hs, h⟩
      next => cases hl
  | _ => simp [SubmitOp.cacheStep] at h

/-- What a submission has read was read before, or just now. -/
theorem read_after {g : LoadState} {a : AtMoment UInt64}
    (h : (g.after op (o.serve w op).1).read = some a) :
    g.read = some a ∨ a = ⟨w.utxoCacheEpoch, w.moment⟩ := by
  cases op with
  | loadEpoch => exact Or.inr (Option.some_inj.mp h).symm
  | _ => exact Or.inl h

/-- What a submission has requested was requested before, or just now, with the same epoch. -/
theorem requested_after {g : LoadState} {requestedAt : ℕ}
    (h : (g.after op (o.serve w op).1).requested = some requestedAt) :
    (g.after op (o.serve w op).1).read = g.read ∧ (g.requested = some requestedAt ∨
      requestedAt = w.moment ∧ ∃ address, op = .requestUtxos address) := by
  cases op with
  | loadEpoch => cases h
  | requestUtxos address => exact ⟨rfl, Or.inr ⟨(Option.some_inj.mp h).symm, address, rfl⟩⟩
  | _ => exact ⟨rfl, Or.inl h⟩

end Calls

/-! ### Runs -/

section Runs

variable {lib : KaspaExternals} {requests : ℕ → IgraSubmitRequest} {instant : ℕ}
  {c c' : SubmitterConf lib}

/-- What submission `i` has read and requested. -/
def loadState (c : SubmitterConf lib) (i : ℕ) : LoadState :=
  c.ghost LoadState.step LoadState.start i

/-- The assertion at the pending call of a disciplined program. -/
theorem loadPending_of_disciplined {progs : ℕ → Submission lib (Except String IgraSubmitResult)}
    {w : CacheWorld lib} (h : Reachable (submitterMachine lib) progs w c) {i : ℕ}
    (hd : Disciplined (progs i)) {op : SubmitOp lib} (ho : (c.thread i).status = .inl op) :
    LoadPending (loadState c i) op :=
  Reachable.pending h (fun _ _ _ _ _ _ _ => trivial) (hd.holds .start) ho

/-- What a move can do: it raises the clock, or answers a call of one submission. -/
theorem Submitting.step_cases {m : Move (submitterMachine lib)}
    (h : Submitting requests instant c) (hm : c.move (submitterMachine lib) m = some c') :
    (∃ t, c' = { c with world := { c.world with instant := t } }) ∨
      ∃ i o op k, c' = c.attempt i op k (NodeOracle.serve o c.world op).1 (o.next c.world op) ∧
        LoadPending (loadState c i) op := by
  rcases Conf.move_cases hm with ⟨t, w', ht, rfl⟩ | ⟨i, o, op, k, a, w', hi, ha, rfl⟩
  · left
    simp only [submitterMachine] at ht
    split_ifs at ht
    exact ⟨t, by rw [← Option.some_inj.mp ht]⟩
  · right
    obtain ⟨rfl, rfl⟩ := Prod.mk.inj (Option.some_inj.mp ha)
    exact ⟨i, o, op, k, rfl, loadPending_of_disciplined h
      (disciplined_submitPayload (requests i)) (by rw [hi]; rfl)⟩

/-- The epoch counts the increments, moments are in order, and every submission has read the epoch
before it sent its request. -/
structure CacheInvariant (c : SubmitterConf lib) : Prop where
  epoch : c.world.utxoCacheEpoch.toNat = (1 + increments c.history) % 2 ^ 64
  moments : ∀ x ∈ c.history, momentOf x < c.world.moment
  read : ∀ i a, (loadState c i).read = some a → a.moment < c.world.moment ∧
    a.value.toNat = (1 + incrementsBefore a.moment c.history) % 2 ^ 64
  requested : ∀ i requestedAt, (loadState c i).requested = some requestedAt →
    ∃ a, (loadState c i).read = some a ∧ a.moment < requestedAt

theorem loadState_attempt (c : SubmitterConf lib) (i j : ℕ) (op : SubmitOp lib)
    (k : op.Out → Submission lib (Except String IgraSubmitResult)) (a : op.Ans)
    (w' : CacheWorld lib) :
    loadState (c.attempt i op k a w') j =
      if i = j then (loadState c j).after op a else loadState c j :=
  Conf.ghost_attempt ..

theorem increments_attempt (c : SubmitterConf lib) (i : ℕ) (op : SubmitOp lib)
    (k : op.Out → Submission lib (Except String IgraSubmitResult)) (a : op.Ans)
    (w' : CacheWorld lib) : increments (c.attempt i op k a w').history =
      increments c.history + if op.cacheStep a = .increment then 1 else 0 :=
  increments_cons ..

theorem incrementsBefore_attempt {c : SubmitterConf lib} {moment : ℕ}
    (h : moment ≤ c.world.moment) (i : ℕ) (op : SubmitOp lib)
    (k : op.Out → Submission lib (Except String IgraSubmitResult)) (a : op.Ans)
    (w' : CacheWorld lib) : incrementsBefore moment (c.attempt i op k a w').history =
      incrementsBefore moment c.history :=
  incrementsBefore_cons_of_le h

/-- One answered call keeps the invariant. -/
theorem CacheInvariant.attempt (hinv : CacheInvariant c) {i : ℕ} {o : NodeOracle lib}
    {op : SubmitOp lib} {k : op.Out → Submission lib (Except String IgraSubmitResult)}
    (hpending : LoadPending (loadState c i) op) :
    CacheInvariant (c.attempt i op k (o.serve c.world op).1 (o.next c.world op)) := by
  have hkept : ∀ {j a}, (loadState c j).read = some a → a.moment < c.world.moment + 1 ∧
      a.value.toNat = (1 + incrementsBefore a.moment (c.attempt i op k (o.serve c.world op).1
        (o.next c.world op)).history) % 2 ^ 64 := fun {j a} ha => by
    obtain ⟨hlt, hvalue⟩ := hinv.read j a ha
    rw [incrementsBefore_attempt hlt.le]
    exact ⟨by omega, hvalue⟩
  refine ⟨?_, ?_, fun j a ha => ?_, fun j requestedAt hr => ?_⟩
  · show (o.next c.world op).utxoCacheEpoch.toNat = _
    rw [toNat_epoch_next, hinv.epoch, increments_attempt, Nat.mod_add_mod, Nat.add_assoc]
  · intro x hx
    show momentOf x < c.world.moment + 1
    rcases List.mem_cons.mp hx with rfl | hx
    · exact Nat.lt_succ_self _
    · exact (hinv.moments x hx).trans (Nat.lt_succ_self _)
  · rw [loadState_attempt] at ha
    split_ifs at ha with hij
    · rcases read_after ha with ha | rfl
      · exact hkept ha
      · rw [incrementsBefore_attempt (Nat.le_refl _), incrementsBefore_eq hinv.moments]
        exact ⟨Nat.lt_succ_self _, hinv.epoch⟩
    · exact hkept ha
  · rw [loadState_attempt] at hr ⊢
    split_ifs at hr ⊢ with hij
    · obtain ⟨hread, hr | ⟨rfl, address, rfl⟩⟩ := requested_after hr
      · rw [hread]
        exact hinv.requested j requestedAt hr
      · obtain ⟨a, ha⟩ : ∃ a, (loadState c i).read = some a := hpending
        rw [hread]
        subst hij
        exact ⟨a, ha, (hinv.read i a ha).1⟩
    · exact hinv.requested j requestedAt hr

theorem Submitting.invariant (h : Submitting requests instant c) : CacheInvariant c := by
  refine Reachable.invariant h (P := CacheInvariant)
    ⟨rfl, fun x hx => absurd hx List.not_mem_nil, fun i a ha => ?_, fun i r hr => ?_⟩
    fun d d' m hd hinv hm => ?_
  · cases ha
  · cases hr
  · rcases Submitting.step_cases hd hm with ⟨t, rfl⟩ | ⟨i, o, op, k, rfl, hpending⟩
    · exact ⟨hinv.epoch, hinv.moments, hinv.read, hinv.requested⟩
    · exact hinv.attempt hpending

/-! ### Freshness -/

/-- What the cache holds was requested after the increment of every completed invalidation. -/
def CachedFresh (c : SubmitterConf lib) : Prop :=
  ∀ s, c.world.utxoCache = some s →
    ∀ x y, Invalidated c.history x y → momentOf x < s.utxos.requestedAt

/-- An invalidation that completed before the newest entry is in the history before it. -/
theorem Invalidated.of_cons {e x y : CacheEntry lib} {history : List (CacheEntry lib)}
    (h : Invalidated (e :: history) x y) (hy : momentOf y < momentOf e) :
    Invalidated history x y := by
  have hmem : ∀ v ∈ e :: history, momentOf v < momentOf e → v ∈ history := fun v hv hlt => by
    rcases List.mem_cons.mp hv with rfl | hv
    · exact absurd hlt (Nat.lt_irrefl _)
    · exact hv
  exact ⟨⟨hmem x h.mem.1 (h.lt.trans hy), hmem y h.mem.2 hy⟩, h.tid, h.increment, h.clear, h.lt⟩

theorem Invalidated.mono {history history' : List (CacheEntry lib)} (hsub : history ⊆ history')
    {x y : CacheEntry lib} (h : Invalidated history x y) : Invalidated history' x y :=
  ⟨⟨hsub h.mem.1, hsub h.mem.2⟩, h.tid, h.increment, h.clear, h.lt⟩

theorem ForcedStoresFresh.of_subset {history history' : List (CacheEntry lib)}
    (hsub : history ⊆ history') (h : ForcedStoresFresh history') : ForcedStoresFresh history :=
  fun s hs requestedAt hstore x y hinv hlt =>
    h s (hsub hs) requestedAt hstore x y (hinv.mono hsub) hlt

/-- **The guard.** When the epoch is still the one that was read, every increment was made before
it was read. -/
theorem CacheInvariant.increments_lt (hinv : CacheInvariant c)
    (hwrap : increments c.history < 2 ^ 64) {i : ℕ} {a : AtMoment UInt64}
    (ha : (loadState c i).read = some a) (hepoch : c.world.utxoCacheEpoch = a.value) :
    ∀ x ∈ c.history, cacheStep x = .increment → momentOf x < a.moment := by
  have hvalue := (hinv.read i a ha).2
  rw [← hepoch, hinv.epoch] at hvalue
  have hle := incrementsBefore_le a.moment c.history
  have heq : increments c.history = incrementsBefore a.moment c.history := by
    have hmod : increments c.history % 2 ^ 64 = incrementsBefore a.moment c.history % 2 ^ 64 := by
      omega
    rwa [Nat.mod_eq_of_lt hwrap, Nat.mod_eq_of_lt (hle.trans_lt hwrap)] at hmod
  exact momentOf_lt_of_incrementsBefore heq

/-- One answered call keeps the cache fresh, if it is no stale forced store. -/
theorem CachedFresh.attempt (hfresh : CachedFresh c) (hinv : CacheInvariant c)
    (hwrap : increments c.history < 2 ^ 64) {i : ℕ} {o : NodeOracle lib} {op : SubmitOp lib}
    {k : op.Out → Submission lib (Except String IgraSubmitResult)}
    (hpending : LoadPending (loadState c i) op)
    (hforced : ForcedStoresFresh
      (c.attempt i op k (o.serve c.world op).1 (o.next c.world op)).history) :
    CachedFresh (c.attempt i op k (o.serve c.world op).1 (o.next c.world op)) := by
  intro s hs x y hxy
  rcases utxoCache_next hs with
    ⟨hold, hclear⟩ | ⟨cacheKey, utxos, readEpoch, forceRefresh, rfl, hstore, rfl⟩
  · -- the call is no clearing, so the invalidation had completed before it
    refine hfresh s hold x y (hxy.of_cons ?_)
    rcases List.mem_cons.mp hxy.mem.2 with rfl | hy
    · exact absurd hxy.clear hclear
    · exact hinv.moments y hy
  · have hy : momentOf y < c.world.moment := by
      rcases List.mem_cons.mp hxy.mem.2 with rfl | hy
      · cases hxy.clear
      · exact hinv.moments y hy
    have hold : Invalidated c.history x y := hxy.of_cons hy
    cases forceRefresh with
    | true => exact hforced _ List.mem_cons_self s.utxos.requestedAt rfl x y hxy hy
    | false =>
      obtain ⟨⟨a, ha, rfl⟩, hrequested⟩ := hpending
      have hepoch : c.world.utxoCacheEpoch = a.value := by simpa using hstore
      have hbefore := hinv.increments_lt hwrap ha hepoch x hold.mem.1 hold.increment
      obtain ⟨a', ha', hlt⟩ := hinv.requested i _ hrequested
      rw [ha] at ha'
      obtain rfl := Option.some_inj.mp ha'
      exact hbefore.trans hlt

/-- One answered call keeps the cached reads fresh, when what the cache holds is. -/
theorem FreshHits.attempt (hhits : FreshHits c.history) (hfresh : CachedFresh c)
    (hinv : CacheInvariant c) {i : ℕ} {o : NodeOracle lib} {op : SubmitOp lib}
    {k : op.Out → Submission lib (Except String IgraSubmitResult)} :
    FreshHits (c.attempt i op k (o.serve c.world op).1 (o.next c.world op)).history := by
  intro z hz requestedAt hhit l hl hlz hload hlt x y hxy hy
  rcases List.mem_cons.mp hz with rfl | hz
  · obtain ⟨s, hs, rfl⟩ := utxoCache_of_hit hhit
    exact hfresh s hs x y (hxy.of_cons (hy.trans hlt))
  · have hzm : momentOf z < c.world.moment := hinv.moments z hz
    have hlm : l ∈ c.history := by
      rcases List.mem_cons.mp hl with rfl | hl
      · exact absurd hlt hzm.not_gt
      · exact hl
    exact hhits z hz requestedAt hhit l hlm hlz hload hlt x y
      (hxy.of_cons ((hy.trans hlt).trans hzm)) hy

/-- **Fresh cached reads.** While every forced store has entries that were requested after the
increment of every invalidation that has completed by then, and the epoch has not wrapped around,
a `load_utxos` returns from the cache only entries that were requested after the increment of
every invalidation that had completed before it began. -/
theorem freshHits_of_forcedStoresFresh (h : Submitting requests instant c)
    (hforced : ForcedStoresFresh c.history) (hwrap : increments c.history < 2 ^ 64) :
    FreshHits c.history := by
  refine (Reachable.invariant h (P := fun c => ForcedStoresFresh c.history →
    increments c.history < 2 ^ 64 → CachedFresh c ∧ FreshHits c.history)
    (fun _ _ => ⟨fun s hs => ?_, fun z hz => absurd hz List.not_mem_nil⟩)
    fun d d' m hd ih hm hforced hwrap => ?_) hforced hwrap |>.2
  · cases hs
  · rcases Submitting.step_cases hd hm with ⟨t, rfl⟩ | ⟨i, o, op, k, rfl, hpending⟩
    · exact ih hforced hwrap
    · have hinv : CacheInvariant d := Submitting.invariant hd
      have hsub : d.history ⊆ (d.attempt i op k (o.serve d.world op).1
        (o.next d.world op)).history := List.subset_cons_self ..
      have hwrap' : increments d.history < 2 ^ 64 := by
        rw [increments_attempt] at hwrap
        omega
      obtain ⟨hfresh, hhits⟩ := ih (hforced.of_subset hsub) hwrap'
      exact ⟨hfresh.attempt hinv hwrap' hpending hforced, hhits.attempt hfresh hinv⟩

end Runs

/-! ### Submissions of one transaction -/

section Sample

/-- Libraries with one key and one address. -/
def sampleKaspa : KaspaExternals where
  PrivateKey := Unit
  Utxo := ℕ
  Transaction := ℕ
  hexDecode s := .ok (hexPairs s.toList)
  addressFromPrivateKey _ _ := .ok "kaspatest:qq"

/-- A submission of a legacy transaction with empty fields. -/
def sampleSubmission : IgraSubmitRequest where
  l2TxHash := "0x63c02180d526dc113f851f824daa303bcfa24ea8561204a6746bc6cd7e792864"
  rawTxBytes := [0xc9, 0x80, 0x80, 0x80, 0x80, 0x80, 0x80, 0x1b, 0x01, 0x01]
  txIdPrefix := "97b1"
  miningTimeoutSecs := 120
  kaspaRpcUrl := some "grpc://127.0.0.1:16110"
  kaspaNetwork := some "testnet-10"
  payloadCompression := none
  kaspaWallet := .default

/-- A node that has the outputs `utxos` and accepts what it is sent. -/
def sampleNode (utxos : List ℕ) : NodeOracle sampleKaspa where
  key := .ok ()
  connect := .ok ()
  utxos := .ok utxos
  build := .ok (.ok (7, (1 : ℕ)))
  submit := .ok "97b1000000000000000000000000000000000000000000000000000000000001"

/-- The next `n` calls of submission `i`. -/
def sampleCallsOf (i n : ℕ) (utxos : List ℕ) : List (Move (submitterMachine sampleKaspa)) :=
  List.replicate n (.run i (sampleNode utxos))

/-- The submission, the step and the moment of an entry. -/
def summary {lib : KaspaExternals} (x : CacheEntry lib) : ℕ × CacheStep × ℕ :=
  (x.tid, cacheStep x, momentOf x)

theorem exists_of_mem_summary {lib : KaspaExternals} {history : List (CacheEntry lib)}
    {i moment : ℕ} {step : CacheStep} (h : (i, step, moment) ∈ history.map summary) :
    ∃ x ∈ history, x.tid = i ∧ cacheStep x = step ∧ momentOf x = moment := by
  obtain ⟨x, hx, heq⟩ := List.mem_map.mp h
  obtain ⟨rfl, hrest⟩ := Prod.mk.inj heq
  obtain ⟨rfl, rfl⟩ := Prod.mk.inj hrest
  exact ⟨x, hx, rfl, rfl, rfl⟩

/-- The configuration that a schedule leads to. -/
theorem exists_submitting_of_any (ms : List (Move (submitterMachine sampleKaspa)))
    (P : SubmitterConf sampleKaspa → Bool)
    (h : ((Conf.start (fun _ => submitPayload sampleSubmission) (CacheWorld.initial 0)).play
      (submitterMachine sampleKaspa) ms).any P = true) :
    ∃ c, Submitting (fun _ => sampleSubmission) 0 c ∧ P c = true := by
  obtain ⟨c, hc, hP⟩ := (Option.any_eq_true ..).mp h
  exact ⟨c, ⟨ms, hc⟩, hP⟩

/-- No forced store has entries requested before an increment. -/
def forcedAfterIncrements (s x : ℕ × CacheStep × ℕ) : Bool :=
  match s.2.1, x.2.1 with
  | .store requestedAt true, .increment => x.2.2 < requestedAt
  | _, _ => true

theorem forcedStoresFresh_of_all {lib : KaspaExternals} {history : List (CacheEntry lib)}
    (h : ∀ s ∈ history.map summary, ∀ x ∈ history.map summary,
      forcedAfterIncrements s x = true) : ForcedStoresFresh history := by
  intro s hs requestedAt hstore x y hxy _
  have hsx := h (summary s) (List.mem_map_of_mem hs) (summary x) (List.mem_map_of_mem hxy.mem.1)
  simp only [forcedAfterIncrements, summary, hstore, hxy.increment, decide_eq_true_eq] at hsx
  exact hsx

/-- A submission runs to its end; another is refreshed by force; the cached read of a third is
fresh. -/
theorem freshHits_after_refresh : ∃ c : SubmitterConf sampleKaspa,
    Submitting (fun _ => sampleSubmission) 0 c ∧
      (∃ z ∈ c.history, cacheStep z = .hit 21) ∧ FreshHits c.history := by
  obtain ⟨c, hc, hP⟩ := exists_submitting_of_any
    (sampleCallsOf 1 13 [1] ++ sampleCallsOf 0 9 [] ++ sampleCallsOf 0 2 [1] ++
      sampleCallsOf 2 4 [])
    (fun c => decide ((2, .hit 21, 27) ∈ c.history.map summary ∧ increments c.history = 2 ∧
      ∀ s ∈ c.history.map summary, ∀ x ∈ c.history.map summary,
        forcedAfterIncrements s x = true))
    (by decide +kernel)
  obtain ⟨hhit, hcount, hforced⟩ := of_decide_eq_true hP
  obtain ⟨z, hz, -, hzstep, -⟩ := exists_of_mem_summary hhit
  exact ⟨c, hc, ⟨z, hz, hzstep⟩, freshHits_of_forcedStoresFresh hc
    (forcedStoresFresh_of_all hforced) (by omega)⟩

/-- **A forced refresh revives spent entries.** Submission 0 finds no outputs and requests them
again by force. Submission 1 does the same, builds its transaction and completes the invalidation
before its broadcast. Then submission 0 stores what it requested before, and submission 2 reads
it from the cache. -/
theorem staleHit_after_forcedStore : ∃ c : SubmitterConf sampleKaspa,
    Submitting (fun _ => sampleSubmission) 0 c ∧ ¬FreshHits c.history := by
  obtain ⟨c, hc, hP⟩ := exists_submitting_of_any
    (sampleCallsOf 0 9 [] ++ sampleCallsOf 1 11 [1] ++ sampleCallsOf 0 2 [1] ++
      sampleCallsOf 2 4 [])
    (fun c => decide ((2, .hit 8, 25) ∈ c.history.map summary ∧
      (2, .load, 24) ∈ c.history.map summary ∧ (1, .increment, 18) ∈ c.history.map summary ∧
      (1, .clear, 19) ∈ c.history.map summary))
    (by decide +kernel)
  obtain ⟨hz, hl, hx, hy⟩ := of_decide_eq_true hP
  obtain ⟨z, hz, hzi, hzs, hzm⟩ := exists_of_mem_summary hz
  obtain ⟨l, hl, hli, hls, hlm⟩ := exists_of_mem_summary hl
  obtain ⟨x, hx, hxi, hxs, hxm⟩ := exists_of_mem_summary hx
  obtain ⟨y, hy, hyi, hys, hym⟩ := exists_of_mem_summary hy
  refine ⟨c, hc, fun hfresh => ?_⟩
  have hlt := hfresh z hz 8 hzs l hl (hli.trans hzi.symm) hls (by omega) x y
    ⟨⟨hx, hy⟩, hxi.trans hyi.symm, hxs, hys, by omega⟩ (by omega)
  omega

end Sample

end FoundryIgra
