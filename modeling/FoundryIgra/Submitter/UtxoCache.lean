import FoundryIgra.Concurrency.Pool
import FoundryIgra.Submitter.Submission
import Mathlib.Data.List.Count

/-!
# The UTXO cache of concurrent submissions

Any number of `submit_payload` calls on clones of one submitter share the cache and its epoch
counter (`submitter.rs`, `load_utxos`, `invalidate_utxo_cache`). They are interleaved at their
calls; the environment raises the clock and answers for the node. Every call is stamped with a
moment, so that the order of calls of different submissions can be spoken of.

A store without force is guarded by the epoch: it happens only when no increment has been made
since the epoch was read, so what it stores was requested after every increment. A forced store is
not guarded.

## Main definitions

* `CacheWorld`, `submitterMachine`, `Submitting`.
* `CacheStep`, `cacheStep`: what a call does to the cache.
* `Invalidated`, `FreshHits`, `ForcedStoresFresh`: what is said of a history.
* `increments`, `incrementsBefore`: counting increments.
-/

namespace FoundryIgra

open Rust Concurrency

/-! ### The shared cache -/

/-- `CachedUtxoSet`. -/
structure CachedUtxoSet (lib : KaspaExternals) where
  cacheKey : String
  fetchedAt : ℕ
  utxos : UtxoSet lib

/-- The state that the clones of a submitter share, the monotonic clock in nanoseconds, and the
moment of the next call. -/
structure CacheWorld (lib : KaspaExternals) where
  utxoCacheEpoch : UInt64
  utxoCache : Option (CachedUtxoSet lib)
  instant : ℕ
  moment : ℕ

/-- `CACHE_TTL_SECS`, in nanoseconds. -/
def cacheTtlNanos : ℕ := 20 * 1000000000

namespace CacheWorld

variable {lib : KaspaExternals}

/-- The submitter as it is made. -/
def initial (instant : ℕ) : CacheWorld lib := ⟨1, none, instant, 0⟩

/-- What the cache answers under a key. -/
def lookup (w : CacheWorld lib) (cacheKey : String) : Option (UtxoSet lib) :=
  match w.utxoCache with
  | some cache =>
    if cache.cacheKey = cacheKey ∧ w.instant - cache.fetchedAt ≤ cacheTtlNanos then
      some cache.utxos
    else none
  | none => none

end CacheWorld

/-- What the environment decides about a call. -/
structure NodeOracle (lib : KaspaExternals) where
  key : Except String lib.PrivateKey
  connect : Except String Unit
  utxos : Except String (List lib.Utxo)
  build : Except String (Except String (UInt64 × lib.Transaction))
  submit : Except String String

section Environment

variable {lib : KaspaExternals}

/-- The answer of a call and the state it leaves. -/
def NodeOracle.serve (o : NodeOracle lib) (w : CacheWorld lib) :
    (op : SubmitOp lib) → op.Ans × CacheWorld lib
  | .resolvePrivateKey _ => (o.key, w)
  | .connect _ => (o.connect, w)
  | .loadEpoch => (⟨w.utxoCacheEpoch, w.moment⟩, w)
  | .readCache cacheKey => (w.lookup cacheKey, w)
  | .requestUtxos _ => (w.moment, w)
  | .receiveUtxos _ => (o.utxos, w)
  | .storeCache cacheKey utxos readEpoch forceRefresh =>
    ((), if forceRefresh ∨ w.utxoCacheEpoch = readEpoch then
      { w with utxoCache := some ⟨cacheKey, w.instant, utxos⟩ } else w)
  | .buildTransaction _ => (o.build, w)
  | .fetchAddEpoch => ((), { w with utxoCacheEpoch := w.utxoCacheEpoch + 1 })
  | .clearCache => ((), { w with utxoCache := none })
  | .submitTransaction _ => (o.submit, w)

/-- The state after a call, at the next moment. -/
def NodeOracle.next (o : NodeOracle lib) (w : CacheWorld lib) (op : SubmitOp lib) :
    CacheWorld lib :=
  { (o.serve w op).2 with moment := w.moment + 1 }

/-- The machine of the submissions. -/
def submitterMachine (lib : KaspaExternals) : Machine (SubmitOps lib) (CacheWorld lib) where
  Tick := ℕ
  tick t w := if w.instant ≤ t then some { w with instant := t } else none
  Oracle := NodeOracle lib
  answer o _ w op := some ((o.serve w op).1, o.next w op)

/-- A configuration of submissions. -/
abbrev SubmitterConf (lib : KaspaExternals) :=
  Conf (SubmitOps lib) (CacheWorld lib) (Except String IgraSubmitResult)

/-- `c` is reached by submissions of `requests` on clones of one new submitter. -/
def Submitting (requests : ℕ → IgraSubmitRequest) (instant : ℕ) (c : SubmitterConf lib) : Prop :=
  Reachable (submitterMachine lib) (fun i => submitPayload (requests i))
    (CacheWorld.initial instant) c

end Environment

/-! ### What a call does to the cache -/

/-- What a call does to the cache. -/
inductive CacheStep
  /-- A `load_utxos` begins: it reads the epoch. -/
  | load
  /-- It returns entries from the cache that were requested at the moment. -/
  | hit (requestedAt : ℕ)
  /-- It comes to its store, with entries that were requested at the moment. -/
  | store (requestedAt : ℕ) (forceRefresh : Bool)
  /-- An `invalidate_utxo_cache` begins: it increments the epoch. -/
  | increment
  /-- It completes: it empties the cache. -/
  | clear
  | other
  deriving DecidableEq

section Steps

variable {lib : KaspaExternals}

/-- What an answered call does to the cache. -/
def SubmitOp.cacheStep : (op : SubmitOp lib) → op.Ans → CacheStep
  | .loadEpoch, _ => .load
  | .readCache _, some utxos => .hit utxos.requestedAt
  | .storeCache _ utxos _ forceRefresh, _ => .store utxos.requestedAt forceRefresh
  | .fetchAddEpoch, _ => .increment
  | .clearCache, _ => .clear
  | _, _ => .other

/-- An entry of a history of submissions. -/
abbrev CacheEntry (lib : KaspaExternals) := Entry (SubmitOps lib) (CacheWorld lib)

/-- The moment of an entry. -/
def momentOf (x : CacheEntry lib) : ℕ := x.before.moment

/-- What an entry does to the cache. -/
def cacheStep (x : CacheEntry lib) : CacheStep := x.event.1.cacheStep x.event.2

/-- Entries `x` and `y` are the increment of an invalidation and a moment by which it has
completed: its own clearing, or a later one of the same submission. -/
structure Invalidated (history : List (CacheEntry lib)) (x y : CacheEntry lib) : Prop where
  mem : x ∈ history ∧ y ∈ history
  tid : x.tid = y.tid
  increment : cacheStep x = .increment
  clear : cacheStep y = .clear
  lt : momentOf x < momentOf y

/-- Whenever a `load_utxos` returns entries from the cache, they were requested after the
increment of every invalidation that had completed before it began. -/
def FreshHits (history : List (CacheEntry lib)) : Prop :=
  ∀ z ∈ history, ∀ requestedAt, cacheStep z = .hit requestedAt →
    ∀ l ∈ history, l.tid = z.tid → cacheStep l = .load → momentOf l < momentOf z →
      ∀ x y, Invalidated history x y → momentOf y < momentOf l → momentOf x < requestedAt

/-- Every forced store has entries that were requested after the increment of every invalidation
that has completed when it is made. -/
def ForcedStoresFresh (history : List (CacheEntry lib)) : Prop :=
  ∀ s ∈ history, ∀ requestedAt, cacheStep s = .store requestedAt true →
    ∀ x y, Invalidated history x y → momentOf y < momentOf s → momentOf x < requestedAt

/-- How often the epoch was incremented. -/
def increments (history : List (CacheEntry lib)) : ℕ :=
  history.countP fun x => cacheStep x = .increment

/-- How often the epoch was incremented before a moment. -/
def incrementsBefore (moment : ℕ) (history : List (CacheEntry lib)) : ℕ :=
  history.countP fun x => cacheStep x = .increment ∧ momentOf x < moment

theorem increments_cons (x : CacheEntry lib) (history : List (CacheEntry lib)) :
    increments (x :: history) =
      increments history + if cacheStep x = .increment then 1 else 0 := by
  simp [increments, List.countP_cons]

/-- A later entry is not counted before an earlier moment. -/
theorem incrementsBefore_cons_of_le {x : CacheEntry lib} {history : List (CacheEntry lib)}
    {moment : ℕ} (h : moment ≤ momentOf x) :
    incrementsBefore moment (x :: history) = incrementsBefore moment history := by
  have hlt : ¬momentOf x < moment := by omega
  simp [incrementsBefore, hlt]

theorem incrementsBefore_le (moment : ℕ) (history : List (CacheEntry lib)) :
    incrementsBefore moment history ≤ increments history := by
  refine List.countP_mono_left fun x _ hx => ?_
  simp only [decide_eq_true_eq] at hx ⊢
  exact hx.1

/-- Before a moment that no entry has reached, every increment is counted. -/
theorem incrementsBefore_eq {moment : ℕ} {history : List (CacheEntry lib)}
    (h : ∀ x ∈ history, momentOf x < moment) :
    incrementsBefore moment history = increments history := by
  refine List.countP_congr fun x hx => ?_
  simp [h x hx]

/-- When every increment is counted before a moment, it was made before it. -/
theorem momentOf_lt_of_incrementsBefore {moment : ℕ} {history : List (CacheEntry lib)}
    (h : increments history = incrementsBefore moment history) :
    ∀ x ∈ history, cacheStep x = .increment → momentOf x < moment := by
  induction history with
  | nil => intro x hx; cases hx
  | cons y history ih =>
    have hle := incrementsBefore_le moment history
    rw [increments_cons] at h
    intro x hx hstep
    by_cases hy : momentOf y < moment
    · have htail : increments history = incrementsBefore moment history := by
        simp only [incrementsBefore, List.countP_cons, hy, and_true, decide_eq_true_eq] at h hle ⊢
        omega
      rcases List.mem_cons.mp hx with rfl | hx
      · exact hy
      · exact ih htail x hx hstep
    · rw [incrementsBefore_cons_of_le (by omega)] at h
      have hne : cacheStep y ≠ .increment := fun heq => by
        rw [if_pos heq] at h
        omega
      rw [if_neg hne] at h
      rcases List.mem_cons.mp hx with rfl | hx
      · exact absurd hstep hne
      · exact ih h x hx hstep

end Steps

end FoundryIgra
