import FoundryIgra.Concurrency.Past
import FoundryIgra.Submitter.Acknowledged
import FoundryIgra.Submitter.CacheFreshness

/-!
# Where the outputs of a submission come from

Submissions of different wallets, networks and nodes share one cache with one slot (`submitter.rs`,
`load_utxos`). What a submission pays with was replied by a node of its own URL, on a request for
the address of its own key: to itself, or to another submission of the same account, which stored it
at most the time to live before it was read. The parts of a cache key can be told apart because no
network name and no address contains the separator.

## Main definitions

* `Account`, `Account.cacheKey`, `Account.Of`: whose outputs are read.
* `Sourced`: what a submission stores and builds with, by the calls it has made.
* `HandedOver`: outputs that one submission stored and another read.

## Main results

* `Account.eq_of_cacheKey`: accounts with one cache key are the same.
* `sourced_submitPayload`: every submission meets `Sourced` at its calls.
* `supplied_of_built`: where the outputs of a building task come from.
-/

namespace FoundryIgra

open Rust Concurrency

/-! ### Accounts -/

/-- Whose outputs are read, and from where. -/
structure Account where
  rpcUrl : String
  network : String
  sourceAddress : String
  deriving DecidableEq

/-- The cache key of `load_utxos`. -/
def Account.cacheKey (account : Account) : String :=
  account.rpcUrl ++ "|" ++ account.network ++ "|" ++ account.sourceAddress

/-- The account that a private key has under a request. -/
structure Account.Of {lib : KaspaExternals} (request : IgraSubmitRequest)
    (privateKey : lib.PrivateKey) (account : Account) : Prop where
  rpcUrl : request.kaspaRpcUrl = some account.rpcUrl
  network : request.kaspaNetwork = some account.network
  sourceAddress : ∃ networkType addressPrefix,
    kaspaNetworkDescriptor account.network = .ok (networkType, addressPrefix) ∧
      lib.addressFromPrivateKey privateKey addressPrefix = .ok account.sourceAddress

/-- No address contains the separator of the cache keys: an address is a prefix and base-32 text. -/
def SeparatorFree (lib : KaspaExternals) : Prop :=
  ∀ privateKey addressPrefix address,
    lib.addressFromPrivateKey privateKey addressPrefix = .ok address → '|' ∉ address.toList

/-- A network that the submit path knows has no separator in its name. -/
theorem separator_notMem_network {network : String} {d : KaspaNetworkType × KaspaAddressPrefix}
    (h : kaspaNetworkDescriptor network = .ok d) : '|' ∉ network.toList := by
  rw [kaspaNetworkDescriptor] at h
  split_ifs at h with h₁ h₂ h₃ h₄
  · subst h₁
    decide
  · subst h₂
    decide
  · subst h₃
    decide
  · subst h₄
    decide

variable {lib : KaspaExternals}

/-- **Cache keys.** Accounts with one cache key are the same. -/
theorem Account.eq_of_cacheKey {request request' : IgraSubmitRequest} {key key' : lib.PrivateKey}
    {account account' : Account} (hlib : SeparatorFree lib) (h : account.Of request key)
    (h' : account'.Of request' key') (heq : account.cacheKey = account'.cacheKey) :
    account = account' := by
  obtain ⟨type, pre, hnetwork, haddress⟩ := h.sourceAddress
  obtain ⟨type', pre', hnetwork', haddress'⟩ := h'.sourceAddress
  have hlist : ∀ a : Account, a.cacheKey.toList =
      (a.rpcUrl.toList ++ '|' :: a.network.toList) ++ '|' :: a.sourceAddress.toList := fun a => by
    simp [Account.cacheKey, String.toList_append]
  have hkeys := congrArg String.toList heq
  rw [hlist, hlist] at hkeys
  obtain ⟨hfront, hback⟩ := append_cons_inj (hlib _ _ _ haddress) (hlib _ _ _ haddress') hkeys
  obtain ⟨hurl, hmiddle⟩ := append_cons_inj (separator_notMem_network hnetwork)
    (separator_notMem_network hnetwork') hfront
  cases account
  cases account'
  rw [Account.mk.injEq]
  exact ⟨String.toList_inj.mp hurl, String.toList_inj.mp hmiddle, String.toList_inj.mp hback⟩

/-! ### What a submission stores and builds with -/

/-- Among the calls made: a node was asked for the outputs of an address and replied with them. -/
structure Replied (made : (SubmitOps lib).Event → Prop) (address : String) (utxos : UtxoSet lib) :
    Prop where
  request : made ⟨.requestUtxos address, utxos.requestedAt⟩
  reply : made ⟨.receiveUtxos utxos.requestedAt, .ok utxos.entries⟩

/-- What holds at the calls of a submission, by the calls it has made: it stores what was replied to
it, under the cache key of the account that it asked for, and builds with what was replied to it or
read under that key. -/
def Sourced (request : IgraSubmitRequest) (made : (SubmitOps lib).Event → Prop) :
    SubmitOp lib → Prop
  | .storeCache cacheKey utxos _ _ => ∃ (account : Account) (privateKey : lib.PrivateKey),
      account.Of request privateKey ∧ cacheKey = account.cacheKey ∧
      Replied made account.sourceAddress utxos
  | .buildTransaction input => ∃ (account : Account) (utxos : UtxoSet lib),
      account.Of request input.privateKey ∧ input.sourceAddress = account.sourceAddress ∧
      input.utxos = utxos.entries ∧
      (Replied made account.sourceAddress utxos ∨ made ⟨.readCache account.cacheKey, some utxos⟩)
  | _ => True

section Programs

variable {α β : Type} {request : IgraSubmitRequest}
  {made made' : (SubmitOps lib).Event → Prop} {es : List (SubmitOps lib).Event}

theorem Replied.mono (hmade : ∀ e, made e → made' e) {address : String} {utxos : UtxoSet lib}
    (h : Replied made address utxos) : Replied made' address utxos :=
  ⟨hmade _ h.request, hmade _ h.reply⟩

/-- More calls were made. -/
theorem Sourced.mono (hmade : ∀ e, made e → made' e) {op : SubmitOp lib}
    (h : Sourced request made op) : Sourced request made' op := by
  cases op with
  | storeCache cacheKey utxos readEpoch forceRefresh =>
    obtain ⟨account, privateKey, hof, hkey, hreplied⟩ := h
    exact ⟨account, privateKey, hof, hkey, hreplied.mono hmade⟩
  | buildTransaction input =>
    obtain ⟨account, utxos, hof, haddress, hutxos, hsource⟩ := h
    exact ⟨account, utxos, hof, haddress, hutxos, hsource.imp (fun hr => hr.mono hmade) (hmade _)⟩
  | _ => trivial

theorem monotone_sourced : Monotone (Sourced request : Assertion (SubmitOps lib)) :=
  fun _ _ hmade _ h => h.mono hmade

/-- A computation that may return early. -/
theorem asserts_orReturn {A : Assertion (SubmitOps lib)} {r : Except String α}
    {f : α → Submission lib (Except String β)}
    (h : ∀ a, r = .ok a → Asserts A (fun _ _ => True) (f a) es) :
    Asserts A (fun _ _ => True) (Submission.orReturn r f) es := by
  cases r with
  | error err => exact asserts_pure trivial
  | ok a => exact h a rfl

theorem sourced_invalidateUtxoCache :
    Asserts (Sourced request) (fun _ _ => True) (invalidateUtxoCache : Submission lib Unit) es :=
  asserts_call trivial fun _ _ _ =>
    asserts_perform (I := SubmitOps lib) .clearCache trivial fun _ _ _ => trivial

/-- The outputs that `load_utxos` returns were replied to the submission, or read under the key. -/
def LoadedFrom (account : Account) (loaded : Except String (UtxoSet lib))
    (es : List (SubmitOps lib).Event) : Prop :=
  ∀ utxos, loaded = .ok utxos → Replied (· ∈ es) account.sourceAddress utxos ∨
    ⟨.readCache account.cacheKey, some utxos⟩ ∈ es

theorem sourced_fetchUtxos {account : Account} {privateKey : lib.PrivateKey}
    (hof : account.Of request privateKey) (readEpoch : UInt64) (forceRefresh : Bool) :
    Asserts (Sourced request) (LoadedFrom account)
      (fetchUtxos account.cacheKey account.sourceAddress readEpoch forceRefresh) es := by
  refine asserts_call trivial fun requestedAt b hb => ?_
  obtain rfl : requestedAt = b := Option.some.inj hb
  refine asserts_call trivial fun reply b hb => ?_
  obtain rfl : reply = b := Option.some.inj hb
  cases reply with
  | error err => exact asserts_pure fun _ h => by cases h
  | ok entries =>
    have hreplied : Replied (· ∈ ⟨.receiveUtxos requestedAt, .ok entries⟩ ::
        ⟨.requestUtxos account.sourceAddress, requestedAt⟩ :: es) account.sourceAddress
        (⟨entries, requestedAt⟩ : UtxoSet lib) :=
      ⟨List.mem_cons_of_mem _ List.mem_cons_self, List.mem_cons_self⟩
    refine asserts_call ⟨account, privateKey, hof, rfl, hreplied⟩ fun _ _ _ => ?_
    refine asserts_pure fun utxos h => ?_
    obtain rfl := Except.ok.inj h
    exact Or.inl (hreplied.mono fun _ he => List.mem_cons_of_mem _ he)

theorem sourced_loadUtxos {account : Account} {privateKey : lib.PrivateKey}
    (hof : account.Of request privateKey) (forceRefresh : Bool) :
    Asserts (Sourced request) (LoadedFrom account)
      (loadUtxos account.rpcUrl account.network account.sourceAddress forceRefresh) es := by
  refine asserts_call trivial fun _ readEpoch _ => ?_
  cases forceRefresh with
  | true => exact sourced_fetchUtxos hof readEpoch true
  | false =>
    refine asserts_call trivial fun cached b hb => ?_
    obtain rfl : cached = b := Option.some.inj hb
    cases cached with
    | none => exact sourced_fetchUtxos hof readEpoch false
    | some utxos =>
      refine asserts_pure fun utxos' h => ?_
      obtain rfl := Except.ok.inj h
      exact Or.inr List.mem_cons_self

variable {next : Submission lib (Except String IgraSubmitResult)}

theorem sourced_broadcast (hnext : ∀ es, Asserts (Sourced request) (fun _ _ => True) next es)
    (forceRefresh : Bool) (payloadNonce : UInt64) (tx : lib.Transaction) :
    Asserts (Sourced request) (fun _ _ => True)
      (broadcast forceRefresh payloadNonce tx next) es := by
  refine sourced_invalidateUtxoCache.bind fun _ es _ _ => ?_
  refine asserts_call trivial fun a b hb => ?_
  obtain rfl : a = b := Option.some.inj hb
  cases a with
  | ok txId => exact sourced_invalidateUtxoCache.bind fun _ _ _ _ => asserts_pure trivial
  | error err =>
    cases forceRefresh with
    | true => exact asserts_pure trivial
    | false => exact hnext _

/-- **An attempt** builds with what it has loaded. -/
theorem sourced_attempt (hnext : ∀ es, Asserts (Sourced request) (fun _ _ => True) next es)
    {p : Prepared lib}
    (hof : (Account.mk p.rpcUrl p.network p.sourceAddress).Of request p.privateKey)
    (forceRefresh : Bool) :
    Asserts (Sourced request) (fun _ _ => True) (attempt request p forceRefresh next) es := by
  refine (sourced_loadUtxos hof forceRefresh).bind fun loaded es' _ hloaded => ?_
  cases loaded with
  | error err => exact asserts_pure trivial
  | ok utxos =>
    show Asserts (Sourced request) _ (if utxos.entries.isEmpty = true then _ else _) es'
    split_ifs
    · exact asserts_pure trivial
    · exact hnext es'
    · refine asserts_call ⟨_, utxos, hof, rfl, rfl, hloaded utxos rfl⟩ fun joined b hb => ?_
      obtain rfl : joined = b := Option.some.inj hb
      cases joined with
      | error err => exact asserts_pure trivial
      | ok built =>
        exact asserts_orReturn fun r _ => sourced_broadcast hnext forceRefresh r.1 r.2

/-- **Submissions.** Every submission meets `Sourced` at its calls. -/
theorem sourced_submitPayload (request : IgraSubmitRequest) :
    Asserts (Sourced request) (fun _ _ => True)
      (submitPayload request : Submission lib (Except String IgraSubmitResult)) es := by
  rw [submitPayload]
  refine asserts_orReturn fun l2 _ => ?_
  show Asserts (Sourced request) _ (if l2.2.length > igraMaxL2dataBytes then _ else _) es
  split_ifs
  · exact asserts_pure trivial
  refine asserts_orReturn fun rpcUrl hurl => asserts_orReturn fun network hnetwork => ?_
  refine asserts_orReturn fun descriptor hdescriptor => asserts_call trivial fun _ key _ => ?_
  refine asserts_orReturn fun privateKey _ => asserts_orReturn fun sourceAddress haddress => ?_
  refine asserts_call trivial fun _ connected _ => ?_
  cases connected with
  | error err => exact asserts_pure trivial
  | ok _ =>
    have hof : (Account.mk rpcUrl network sourceAddress).Of request privateKey :=
      ⟨requiredField_eq_ok hurl, requiredField_eq_ok hnetwork, _, _, hdescriptor, haddress⟩
    refine asserts_orReturn fun txIdPrefix _ => sourced_attempt (fun es => ?_) hof false
    exact sourced_attempt (fun es => asserts_pure trivial) hof true

end Programs

/-! ### What the cache holds -/

section Runs

variable {requests : ℕ → IgraSubmitRequest} {instant : ℕ} {c c' : SubmitterConf lib}

/-- Entry `s` stores the outputs under the key. -/
def StoresUnder (cacheKey : String) (utxos : UtxoSet lib) (s : CacheEntry lib) : Prop :=
  ∃ readEpoch forceRefresh, s.event.1 = .storeCache cacheKey utxos readEpoch forceRefresh

/-- Since the moment of entry `s` the cache was not emptied before a moment. -/
def NotCleared (history : List (CacheEntry lib)) (s : CacheEntry lib) (moment : ℕ) : Prop :=
  ∀ y ∈ history, cacheStep y = .clear → momentOf s < momentOf y → moment ≤ momentOf y

/-- Entry `s` stored outputs under the key from which entry `r` read them: within the time to live,
and with no clearing in between. -/
structure HandedOver (history : List (CacheEntry lib)) (cacheKey : String) (utxos : UtxoSet lib)
    (s r : CacheEntry lib) : Prop where
  mem : s ∈ history
  stores : StoresUnder cacheKey utxos s
  mem_read : r ∈ history
  reads : r.event = ⟨.readCache cacheKey, some utxos⟩
  lt : momentOf s < momentOf r
  fresh : r.before.instant ≤ s.before.instant + cacheTtlNanos
  notCleared : NotCleared history s (momentOf r)

/-- Submission `i` has made a call before a moment. -/
def MadeBefore (history : List (CacheEntry lib)) (i moment : ℕ) (e : (SubmitOps lib).Event) :
    Prop :=
  ∃ x ∈ history, x.tid = i ∧ x.event = e ∧ momentOf x < moment

/-- What the cache holds was stored when it says, and what was read from it was handed over. -/
structure Provenance (c : SubmitterConf lib) : Prop where
  held : ∀ set, c.world.utxoCache = some set → ∃ s ∈ c.history,
    StoresUnder set.cacheKey set.utxos s ∧ s.before.instant = set.fetchedAt ∧
      NotCleared c.history s c.world.moment
  handedOver : ∀ r ∈ c.history, ∀ cacheKey utxos,
    r.event = ⟨.readCache cacheKey, some utxos⟩ → ∃ s, HandedOver c.history cacheKey utxos s r

theorem MadeBefore.mono {history history' : List (CacheEntry lib)} (hsub : history ⊆ history')
    {i moment : ℕ} {e : (SubmitOps lib).Event} (h : MadeBefore history i moment e) :
    MadeBefore history' i moment e := by
  obtain ⟨x, hx, hrest⟩ := h
  exact ⟨x, hsub hx, hrest⟩

/-- **In every run** every call meets the assertion of its submission, by the calls that the
submission made before its moment. -/
theorem Submitting.asserted (h : Submitting requests instant c) {A : ℕ → Assertion (SubmitOps lib)}
    (hA : ∀ i, Monotone (A i))
    (hp : ∀ i, Asserts (A i) (fun _ _ => True) (submitPayload (requests i)) []) :
    ∀ x ∈ c.history, A x.tid (MadeBefore c.history x.tid (momentOf x)) x.event.1 := by
  refine Reachable.invariant h
    (P := fun d => ∀ x ∈ d.history, A x.tid (MadeBefore d.history x.tid (momentOf x)) x.event.1)
    (fun x hx => absurd hx List.not_mem_nil) fun d d' m hd hall hm => ?_
  rcases Conf.move_cases hm with ⟨t, w', -, rfl⟩ | ⟨i, o, op, k, a, w', hi, -, rfl⟩
  · exact hall
  · intro x hx
    rcases List.mem_cons.mp hx with rfl | hx
    · refine hA i (fun e he => ?_) op (Reachable.asserted (hA i) hd (hp i) (by rw [hi]; rfl))
      obtain ⟨y, hy, htid, hevent⟩ := Conf.mem_own.mp he
      exact ⟨y, List.mem_cons_of_mem _ hy, htid, hevent, (Submitting.invariant hd).moments y hy⟩
    · exact hA x.tid (fun e he => he.mono (List.subset_cons_self ..)) x.event.1 (hall x hx)

/-- A later entry clears nothing before an earlier moment. -/
theorem NotCleared.cons {history : List (CacheEntry lib)} {s x : CacheEntry lib} {moment : ℕ}
    (h : NotCleared history s moment) (hx : moment ≤ momentOf x) :
    NotCleared (x :: history) s moment := by
  intro y hy hclear hlt
  rcases List.mem_cons.mp hy with rfl | hy
  · exact hx
  · exact h y hy hclear hlt

theorem HandedOver.cons {history : List (CacheEntry lib)} {s r x : CacheEntry lib}
    {cacheKey : String} {utxos : UtxoSet lib} (h : HandedOver history cacheKey utxos s r)
    (hx : momentOf r ≤ momentOf x) : HandedOver (x :: history) cacheKey utxos s r :=
  ⟨List.mem_cons_of_mem _ h.mem, h.stores, List.mem_cons_of_mem _ h.mem_read, h.reads, h.lt,
    h.fresh, h.notCleared.cons hx⟩

/-- What the cache holds after a call is what it held, or was just stored. -/
theorem held_next {o : NodeOracle lib} {w : CacheWorld lib} {op : SubmitOp lib}
    {set : CachedUtxoSet lib} (h : (o.next w op).utxoCache = some set) :
    (w.utxoCache = some set ∧ op.cacheStep (o.serve w op).1 ≠ .clear) ∨
      set.fetchedAt = w.instant ∧
        ∃ readEpoch forceRefresh,
          op = .storeCache set.cacheKey set.utxos readEpoch forceRefresh := by
  rcases utxoCache_next h with hold | ⟨cacheKey, utxos, readEpoch, forceRefresh, rfl, hstore, -⟩
  · exact Or.inl hold
  · have hset : some (⟨cacheKey, w.instant, utxos⟩ : CachedUtxoSet lib) = some set := by
      simpa [NodeOracle.next, NodeOracle.serve, hstore] using h
    obtain rfl := Option.some.inj hset
    exact Or.inr ⟨rfl, readEpoch, forceRefresh, rfl⟩

/-- A cached read returns what the cache holds under the key, while it is fresh. -/
theorem exists_of_lookup {w : CacheWorld lib} {cacheKey : String} {utxos : UtxoSet lib}
    (h : w.lookup cacheKey = some utxos) : ∃ set, w.utxoCache = some set ∧
      set.cacheKey = cacheKey ∧ set.utxos = utxos ∧
        w.instant ≤ set.fetchedAt + cacheTtlNanos := by
  rw [CacheWorld.lookup] at h
  split at h
  next set hset =>
    split_ifs at h with hkey
    exact ⟨set, hset, hkey.1, Option.some.inj h, by omega⟩
  next => cases h

/-- One answered call keeps the provenance of everything. -/
theorem Provenance.attempt (hprov : Provenance c)
    (hmoments : ∀ x ∈ c.history, momentOf x < c.world.moment) {i : ℕ} {o : NodeOracle lib}
    {op : SubmitOp lib} {k : op.Out → Submission lib (Except String IgraSubmitResult)} :
    Provenance (c.attempt i op k (o.serve c.world op).1 (o.next c.world op)) := by
  refine ⟨fun set hset => ?_, fun r hr cacheKey utxos hread => ?_⟩
  · rcases held_next hset with ⟨hold, hclear⟩ | ⟨hinstant, readEpoch, forceRefresh, rfl⟩
    · obtain ⟨s, hs, hstores, hinstant, hnot⟩ := hprov.held set hold
      refine ⟨s, List.mem_cons_of_mem _ hs, hstores, hinstant, fun y hy hstep hlt => ?_⟩
      rcases List.mem_cons.mp hy with rfl | hy
      · exact absurd hstep hclear
      · exact absurd (hnot y hy hstep hlt) (Nat.not_le_of_lt (hmoments y hy))
    · refine ⟨_, List.mem_cons_self, ⟨readEpoch, forceRefresh, rfl⟩, hinstant.symm,
        fun y hy _ hlt => ?_⟩
      rcases List.mem_cons.mp hy with rfl | hy
      · exact absurd hlt (Nat.lt_irrefl _)
      · exact absurd hlt (Nat.lt_asymm (hmoments y hy))
  · rcases List.mem_cons.mp hr with rfl | hr
    · have hreads := hread
      obtain ⟨rfl, ha⟩ := Sigma.mk.inj hread
      obtain ⟨set, hset, rfl, rfl, hfresh⟩ := exists_of_lookup (eq_of_heq ha)
      obtain ⟨s, hs, hstores, hinstant, hnot⟩ := hprov.held set hset
      exact ⟨s, List.mem_cons_of_mem _ hs, hstores, List.mem_cons_self, hreads, hmoments s hs,
        hinstant ▸ hfresh, hnot.cons (Nat.le_refl _)⟩
    · obtain ⟨s, hs⟩ := hprov.handedOver r hr cacheKey utxos hread
      exact ⟨s, hs.cons (hmoments r hr).le⟩

/-- In every run every call meets `Sourced`, by the calls that its submission made before. -/
theorem Submitting.sourced (h : Submitting requests instant c) :
    ∀ x ∈ c.history,
      Sourced (requests x.tid) (MadeBefore c.history x.tid (momentOf x)) x.event.1 :=
  h.asserted (A := fun i => Sourced (requests i)) (fun _ => monotone_sourced)
    fun i => sourced_submitPayload (requests i)

/-- In every run everything has its provenance. -/
theorem Submitting.provenance (h : Submitting requests instant c) : Provenance c := by
  refine Reachable.invariant h (P := Provenance)
    ⟨fun set hset => (by cases hset), fun r hr => absurd hr List.not_mem_nil⟩
    fun d d' m hd hprov hm => ?_
  rcases Conf.move_cases hm with ⟨t, w', ht, rfl⟩ | ⟨i, o, op, k, a, w', -, ha, rfl⟩
  · simp only [submitterMachine] at ht
    split_ifs at ht
    obtain rfl := Option.some.inj ht
    exact ⟨hprov.held, hprov.handedOver⟩
  · obtain ⟨rfl, rfl⟩ := Prod.mk.inj (Option.some.inj ha)
    exact hprov.attempt (Submitting.invariant hd).moments

/-- The outputs of the building task of entry `z` were replied to entry `x`: on a request for the
address of the very key that the task signs with, by a node of the URL and the network of `z`; to
the same submission, or to one that handed them over. -/
structure Supplied (requests : ℕ → IgraSubmitRequest) (c : SubmitterConf lib) (z : CacheEntry lib)
    (input : BuildInput lib) (x : CacheEntry lib) : Prop where
  mem : x ∈ c.history
  lt : momentOf x < momentOf z
  rpcUrl : (requests x.tid).kaspaRpcUrl = (requests z.tid).kaspaRpcUrl
  network : (requests x.tid).kaspaNetwork = (requests z.tid).kaspaNetwork
  account : ∃ account : Account, account.Of (requests z.tid) input.privateKey ∧
    input.sourceAddress = account.sourceAddress
  replied : ∃ requestedAt, x.event = ⟨.receiveUtxos requestedAt, .ok input.utxos⟩ ∧
    ⟨.requestUtxos input.sourceAddress, requestedAt⟩ ∈ c.own x.tid
  passed : x.tid = z.tid ∨ ∃ s r cacheKey utxos, r.tid = z.tid ∧ s.tid = x.tid ∧
    momentOf x < momentOf s ∧ momentOf r < momentOf z ∧ utxos.entries = input.utxos ∧
    HandedOver c.history cacheKey utxos s r

theorem MadeBefore.mem_own {i moment : ℕ} {e : (SubmitOps lib).Event}
    (h : MadeBefore c.history i moment e) : e ∈ c.own i := by
  obtain ⟨x, hx, hi, he, -⟩ := h
  exact Conf.mem_own.mpr ⟨x, hx, hi, he⟩

/-- Outputs that were replied to the submission itself. -/
theorem Supplied.of_replied {z : CacheEntry lib} {input : BuildInput lib} {account : Account}
    {utxos : UtxoSet lib} (hof : account.Of (requests z.tid) input.privateKey)
    (haddress : input.sourceAddress = account.sourceAddress) (hutxos : input.utxos = utxos.entries)
    (h : Replied (MadeBefore c.history z.tid (momentOf z)) account.sourceAddress utxos) :
    ∃ x, Supplied requests c z input x := by
  obtain ⟨x, hx, hi, hevent, hlt⟩ := h.reply
  refine ⟨x, hx, hlt, by rw [hi], by rw [hi], ⟨account, hof, haddress⟩,
    ⟨utxos.requestedAt, by rw [hevent, hutxos], ?_⟩, Or.inl hi⟩
  rw [haddress, hi]
  exact h.request.mem_own

/-- Outputs that were read from the cache: whoever stored them has the same account. -/
theorem Supplied.of_read (hlib : SeparatorFree lib) (h : Submitting requests instant c)
    {z : CacheEntry lib} {input : BuildInput lib} {account : Account} {utxos : UtxoSet lib}
    (hof : account.Of (requests z.tid) input.privateKey)
    (haddress : input.sourceAddress = account.sourceAddress) (hutxos : input.utxos = utxos.entries)
    (hread : MadeBefore c.history z.tid (momentOf z) ⟨.readCache account.cacheKey, some utxos⟩) :
    ∃ x, Supplied requests c z input x := by
  obtain ⟨r, hr, hri, hevent, hrz⟩ := hread
  obtain ⟨s, hs⟩ := h.provenance.handedOver r hr _ _ hevent
  obtain ⟨readEpoch, forceRefresh, hstore⟩ := hs.stores
  have hstored := h.sourced s hs.mem
  rw [hstore] at hstored
  obtain ⟨account', privateKey', hof', hkey, hreplied⟩ := hstored
  obtain rfl := Account.eq_of_cacheKey hlib hof hof' hkey
  obtain ⟨x, hx, hxi, hxevent, hxs⟩ := hreplied.reply
  refine ⟨x, hx, hxs.trans (hs.lt.trans hrz), ?_, ?_, ⟨account, hof, haddress⟩,
    ⟨utxos.requestedAt, ?_, ?_⟩, Or.inr ?_⟩
  · rw [hxi, hof'.rpcUrl, hof.rpcUrl]
  · rw [hxi, hof'.network, hof.network]
  · rw [hxevent, hutxos]
  · rw [haddress, hxi]
    exact hreplied.request.mem_own
  · exact ⟨s, r, _, utxos, hri, hxi.symm, hxs, hrz, hutxos.symm, hs⟩

/-- The outputs of a building task, by what holds at its call. -/
theorem Supplied.of_sourced (hlib : SeparatorFree lib) (h : Submitting requests instant c)
    {z : CacheEntry lib} {input : BuildInput lib}
    (hsourced : Sourced (requests z.tid) (MadeBefore c.history z.tid (momentOf z))
      (.buildTransaction input)) : ∃ x, Supplied requests c z input x := by
  obtain ⟨account, utxos, hof, haddress, hutxos, hreplied | hread⟩ := hsourced
  · exact Supplied.of_replied hof haddress hutxos hreplied
  · exact Supplied.of_read hlib h hof haddress hutxos hread

/-- **The outputs of a submission.** In every run of submissions on clones of one submitter, a
building task is given outputs that a node replied, for the address of the key that it signs with,
to a submission with the same URL and network: the submission of the task, or one from which it got
them through the cache, at most the time to live after they were stored and with no clearing in
between. -/
theorem supplied_of_built (hlib : SeparatorFree lib) (h : Submitting requests instant c)
    {z : CacheEntry lib} (hz : z ∈ c.history) {input : BuildInput lib}
    (hbuild : z.event.1 = .buildTransaction input) : ∃ x, Supplied requests c z input x := by
  have hsourced := h.sourced z hz
  rw [hbuild] at hsourced
  exact Supplied.of_sourced hlib h hsourced

end Runs

/-! ### Outputs handed over -/

/-- The call is a building task. -/
def SubmitOp.isBuild : SubmitOp lib → Bool
  | .buildTransaction _ => true
  | _ => false

theorem SubmitOp.eq_of_isBuild {op : SubmitOp lib} (h : op.isBuild = true) :
    ∃ input, op = .buildTransaction input := by
  cases op with
  | buildTransaction input => exact ⟨input, rfl⟩
  | _ => cases h

theorem separatorFree_sampleKaspa : SeparatorFree sampleKaspa := by
  rintro _ _ _ ⟨⟩
  decide

/-- Submission 1 builds with outputs that it read from the cache. -/
theorem supplied_of_built_handedOver : ∃ c : SubmitterConf sampleKaspa,
    Submitting (fun _ => sampleSubmission) 0 c ∧ (∃ r ∈ c.history, cacheStep r = .hit 4) ∧
      ∃ z ∈ c.history, z.tid = 1 ∧ ∃ input x, z.event.1 = .buildTransaction input ∧
        Supplied (fun _ => sampleSubmission) c z input x := by
  obtain ⟨c, hc, hP⟩ := exists_submitting_of_any (sampleCallsOf 0 7 [1] ++ sampleCallsOf 1 5 [])
    (fun c => decide ((1, .hit 4, 10) ∈ c.history.map summary) &&
      c.history.any fun z => decide (z.tid = 1) && z.event.1.isBuild) (by decide +kernel)
  obtain ⟨hhit, hany⟩ := Bool.and_eq_true_iff.mp hP
  obtain ⟨r, hr, -, hstep, -⟩ := exists_of_mem_summary (of_decide_eq_true hhit)
  obtain ⟨z, hz, hzP⟩ := List.any_eq_true.mp hany
  obtain ⟨htid, hbuild⟩ := Bool.and_eq_true_iff.mp hzP
  obtain ⟨input, hinput⟩ := SubmitOp.eq_of_isBuild hbuild
  obtain ⟨x, hx⟩ := supplied_of_built separatorFree_sampleKaspa hc hz hinput
  exact ⟨c, hc, ⟨r, hr, hstep⟩, z, hz, of_decide_eq_true htid, input, x, hinput, hx⟩

end FoundryIgra
