import FoundryIgra.Transport.History

/-!
# Progress of the expected nonces

The expected nonce of a sender starts at the nonce of the first request of the sender that was
classified and only moves forward, and it moves past a nonce only when a request with that nonce
was classified as in order and its submission returned a result. The history of a session is the
evidence: the classifications and the returns are entries of it.

## Main definitions

* `SubmittedInOrder`: a nonce was submitted in order.
* `SeededWith`: a classification stored the first expected nonce.
* `Advanced`: how a counter advances.
* `GapFree`: every expected nonce advanced from its seed.

## Main results

* `nextExpectedNonce_effect`: what a call can do to an expected nonce.
* `nonceProgress`: the expected nonces of a session.
-/

namespace FoundryIgra

open Rust Store Concurrency

/-- A request of `sender` with the nonce `k` was classified as in order, and its submission
returned a result. -/
def SubmittedInOrder (lib : Externals) (calls : ℕ → RequestCall)
    (history : List (Entry TransportOps World)) (sender : String) (k : UInt64) : Prop :=
  ∃ i t, (calls i).tracked lib = some t ∧ t.sender = sender ∧ t.l2Nonce = k ∧
    (∃ x ∈ history, x.tid = i ∧ Classified t (.inOrder k) x) ∧
    ∃ x ∈ history, x.tid = i ∧ ∃ r, Returned r x

/-- The entry is a classification of `t` that found no expected nonce and stored the nonce of
`t`. -/
structure Seeds (t : TrackedSend) (x : Entry TransportOps World) : Prop where
  classified : Classified t (.inOrder t.l2Nonce) x
  before : nextExpectedNonce x.before.db t.sender = none
  after : nextExpectedNonce x.after.db t.sender = some t.l2Nonce

/-- The first expected nonce of `sender` was `seed`, the nonce of the request of `sender` whose
classification stored it. -/
def SeededWith (lib : Externals) (calls : ℕ → RequestCall)
    (history : List (Entry TransportOps World)) (sender : String) (seed : UInt64) : Prop :=
  ∃ x ∈ history, ∃ t, (calls x.tid).tracked lib = some t ∧ t.sender = sender ∧
    t.l2Nonce = seed ∧ Seeds t x

/-! ### Counters that advance -/

/-- The counter came from `start` to `now`: it was not lost, and it moved from where it was, or
from a seed if there was none, past values that meet `E` only. -/
structure Advanced (E : UInt64 → Prop) (start now : Option UInt64) : Prop where
  kept : start ≠ none → now ≠ none
  passed : ∀ e, now = some e → ∃ seed ≤ e, (∀ s, start = some s → seed = s) ∧
    ∀ k, seed ≤ k → k < e → E k

namespace Advanced

variable {E E' : UInt64 → Prop} {start now now' : Option UInt64}

theorem refl (start : Option UInt64) : Advanced E start start :=
  ⟨id, fun e he => ⟨e, UInt64.le_refl e, fun _ hs => Option.some_inj.mp (he.symm.trans hs),
    fun _ hk hlt => absurd hlt (UInt64.not_lt.mpr hk)⟩⟩

/-- A counter passes no value that has no successor. -/
theorem mono (h : Advanced E start now) (hE : ∀ k, k ≠ u64Max → E k → E' k) :
    Advanced E' start now := by
  refine ⟨h.kept, fun e he => ?_⟩
  obtain ⟨seed, hle, hseed, hall⟩ := h.passed e he
  refine ⟨seed, hle, hseed, fun k hk hlt => hE k ?_ (hall k hk hlt)⟩
  rintro rfl
  have hlt := UInt64.lt_iff_toNat_lt.mp hlt
  have := e.toNat_lt
  rw [toNat_u64Max] at hlt
  omega

/-- A counter that there is not yet is seeded. -/
theorem seed (h : Advanced E start none) (e : UInt64) : Advanced E start (some e) := by
  have hstart : start = none := by
    by_contra hne
    exact h.kept hne rfl
  subst hstart
  refine ⟨fun _ => Option.some_ne_none e, ?_⟩
  rintro _ ⟨⟩
  exact ⟨e, UInt64.le_refl e, nofun, fun _ hk hlt => absurd hlt (UInt64.not_lt.mpr hk)⟩

/-- A counter moves past a value that meets `E`. -/
theorem succ (h : Advanced E start now) {k next : UInt64} (hnext : next.toNat = k.toNat + 1)
    (hnow : ∀ e, now = some e → e = k) (hk : E k) : Advanced E start (some next) := by
  have hkn : k ≤ next := UInt64.le_iff_toNat_le.mpr (by omega)
  have hbelow : ∀ n : UInt64, n < next → n = k ∨ n < k := fun n hn => by
    have hlt := UInt64.lt_iff_toNat_lt.mp hn
    rcases Nat.lt_or_eq_of_le (Nat.le_of_lt_succ (hnext ▸ hlt)) with hlt' | heq
    · exact Or.inr (UInt64.lt_iff_toNat_lt.mpr hlt')
    · exact Or.inl (UInt64.toNat_inj.mp heq)
  refine ⟨fun _ => Option.some_ne_none next, ?_⟩
  rintro _ ⟨⟩
  cases now with
  | none =>
    have hstart : start = none := by
      by_contra hne
      exact h.kept hne rfl
    refine ⟨k, hkn, fun s hs => ?_, fun n hn hlt => ?_⟩
    · rw [hstart] at hs
      cases hs
    · rcases hbelow n hlt with rfl | hlt'
      · exact hk
      · exact absurd hlt' (UInt64.not_lt.mpr hn)
  | some e =>
    obtain rfl := hnow e rfl
    obtain ⟨seed, hle, hseed, hall⟩ := h.passed e rfl
    refine ⟨seed, UInt64.le_trans hle hkn, hseed, fun n hn hlt => ?_⟩
    rcases hbelow n hlt with rfl | hlt'
    · exact hk
    · exact hall n hn hlt'

/-- A counter never moves back. -/
theorem le (h : Advanced E start now) {s : UInt64} (hs : start = some s) :
    ∃ e, now = some e ∧ s ≤ e := by
  obtain ⟨e, he⟩ := Option.ne_none_iff_exists'.mp (h.kept (by rw [hs]; exact Option.some_ne_none s))
  obtain ⟨seed, hle, hseed, -⟩ := h.passed e he
  exact ⟨e, he, hseed s hs ▸ hle⟩

/-- From a value on, a counter advances past everything up to where it is now. -/
theorem between {s e : UInt64} (h : Advanced E (some s) (some e)) :
    s ≤ e ∧ ∀ k, s ≤ k → k < e → E k := by
  obtain ⟨seed, hle, hseed, hall⟩ := h.passed e rfl
  obtain rfl := hseed s rfl
  exact ⟨hle, hall⟩

end Advanced

/-! ### What a call can do -/

/-- What a call can do to the expected nonce of a sender: nothing, seed it with the nonce that an
acquisition round classified, or move it from the nonce of an advance to its successor. -/
theorem nextExpectedNonce_effect {clock : ℕ} {db db' : Db} {op : TransportOp} {a : op.Ans}
    (heff : Effect clock db db' op a) (sender : String) :
    nextExpectedNonce db' sender = nextExpectedNonce db sender ∨
      (nextExpectedNonce db sender = none ∧ ∃ t now, t.sender = sender ∧
        GrantedRound t now ⟨op, a⟩ ∧ nextExpectedNonce db' sender = some t.l2Nonce) ∨
      ∃ (store : IgraStore) (nonce next : UInt64), op = .markSubmitted store sender nonce ∧
        next.toNat = nonce.toNat + 1 ∧
        (∀ e, nextExpectedNonce db sender = some e → e = nonce) ∧
        nextExpectedNonce db' sender = some next := by
  rcases effect_cases heff with rfl | ⟨_, _, _, -, rfl⟩ |
    ⟨t, now, hround, -, -, rfl | ⟨hnone, _, rfl⟩⟩ |
    ⟨store, s, nonce, next, _, rfl, hnext, hcur, rfl⟩ | ⟨_, _, _, -, rfl⟩
  · exact Or.inl rfl
  · exact Or.inl rfl
  · exact Or.inl rfl
  · rw [nextExpectedNonce_set]
    split_ifs with hs
    · subst hs
      exact Or.inr (Or.inl ⟨hnone, t, now, rfl, hround, rfl⟩)
    · exact Or.inl rfl
  · rw [nextExpectedNonce_set]
    split_ifs with hs
    · subst hs
      exact Or.inr (Or.inr ⟨store, nonce, next, rfl, hnext, hcur, rfl⟩)
    · exact Or.inl rfl
  · exact Or.inl rfl

/-- No call lowers an expected nonce. -/
theorem le_nextExpectedNonce_effect {clock : ℕ} {db db' : Db} {op : TransportOp} {a : op.Ans}
    (heff : Effect clock db db' op a) {sender : String} {e : UInt64}
    (he : nextExpectedNonce db sender = some e) :
    ∃ e', nextExpectedNonce db' sender = some e' ∧ e ≤ e' := by
  rcases nextExpectedNonce_effect heff sender with
    heq | ⟨hnone, -⟩ | ⟨-, nonce, next, -, hnext, hcur, hdb'⟩
  · exact ⟨e, heq.trans he, UInt64.le_refl e⟩
  · rw [he] at hnone
    cases hnone
  · have hle : e.toNat ≤ next.toNat := by
      rw [hcur e he]
      omega
    exact ⟨next, hdb', UInt64.le_iff_toNat_le.mpr hle⟩

/-- What a successful acquisition round found: the nonce does not exceed the expected nonce it is
compared with, which is the stored one, or the nonce itself for a sender without one. -/
theorem expected_of_classified {clock : ℕ} {db db' : Db} {t : TrackedSend} {deadlineMs : UInt64}
    {a : PollAnswer} (heff : Effect clock db db' (.pollLock t deadlineMs) a)
    {ordering : NonceOrdering} (ha : a.result = .ok (some ordering)) :
    t.l2Nonce ≤ ordering.expected ∧ (∀ e, ordering = .inOrder e → t.l2Nonce = e) ∧
      nextExpectedNonce db' t.sender = some ordering.expected ∧
      ∀ e, nextExpectedNonce db t.sender = some e → e = ordering.expected := by
  obtain ⟨-, -, classifyNow, hclassify⟩ := effect_granted heff ha
  obtain ⟨hle, hin, hdb⟩ := classifyNonceInTx_cases hclassify
  refine ⟨hle, hin, nextExpectedNonce_classify hclassify, fun e he => ?_⟩
  rcases hdb with ⟨he', -⟩ | ⟨hnone, -⟩
  · exact Option.some_inj.mp (he.symm.trans he')
  · exact absurd (he.symm.trans hnone) (by simp)

/-- The first classification of a sender finds its nonce in order. -/
theorem inOrder_of_classified {clock : ℕ} {db db' : Db} {t : TrackedSend} {deadlineMs : UInt64}
    {a : PollAnswer} (heff : Effect clock db db' (.pollLock t deadlineMs) a)
    {ordering : NonceOrdering} (ha : a.result = .ok (some ordering))
    (hnone : nextExpectedNonce db t.sender = none) : ordering = .inOrder t.l2Nonce := by
  obtain ⟨-, -, classifyNow, hclassify⟩ := effect_granted heff ha
  obtain ⟨-, -, ⟨hsome, -⟩ | ⟨-, hin, -⟩⟩ := classifyNonceInTx_cases hclassify
  · cases hnone.symm.trans hsome
  · exact hin

section Sessions

variable {lib : Externals} {calls : ℕ → RequestCall} {w : World} {c c' : SessionConf}

/-- More history keeps the evidence. -/
theorem SubmittedInOrder.mono {history history' : List (Entry TransportOps World)}
    {sender : String} {k : UInt64} (hsub : history ⊆ history')
    (h : SubmittedInOrder lib calls history sender k) :
    SubmittedInOrder lib calls history' sender k := by
  obtain ⟨i, t, ht, hs, hk, ⟨x, hx, hxc⟩, ⟨y, hy, hyr⟩⟩ := h
  exact ⟨i, t, ht, hs, hk, ⟨x, hsub hx, hxc⟩, ⟨y, hsub hy, hyr⟩⟩

/-- What a pending advance rests on: the nonce was submitted in order. -/
theorem Session.submittedInOrder (h : Session lib calls w c) {i : ℕ} {store : IgraStore}
    {sender : String} {nonce : UInt64}
    (hinv : CallInvariant ((calls i).tracked lib) (progress c i)
      (.markSubmitted store sender nonce)) :
    SubmittedInOrder lib calls c.history sender nonce := by
  cases ht : (calls i).tracked lib with
  | none => simp [ht, CallInvariant, LeavesStore] at hinv
  | some t =>
    rw [ht] at hinv
    obtain ⟨-, rfl, rfl, ⟨now, e, hgrant⟩, r, hanswer⟩ := hinv
    obtain ⟨x, hx, hxi, hxc⟩ := h.exists_classified ht hgrant
    obtain ⟨y, hy, hyi, hyr⟩ := exists_returned hanswer
    have he : t.l2Nonce = e := by
      obtain ⟨deadlineMs, a, hevent, ha⟩ := hxc
      obtain ⟨d, -, hans⟩ := h.answered_of_mem x hx
      have heff := hans.effect
      rw [hevent] at heff
      exact (expected_of_classified heff ha).2.1 e rfl
    exact ⟨i, t, ht, rfl, rfl, ⟨x, hx, hxi, he ▸ hxc⟩, ⟨y, hy, hyi, r, hyr⟩⟩

/-- More history keeps the seed. -/
theorem SeededWith.mono {history history' : List (Entry TransportOps World)} {sender : String}
    {seed : UInt64} (hsub : history ⊆ history') (h : SeededWith lib calls history sender seed) :
    SeededWith lib calls history' sender seed := by
  obtain ⟨x, hx, hseeds⟩ := h
  exact ⟨x, hsub hx, hseeds⟩

/-- A granting round of a sender without an expected nonce seeds it. -/
theorem seededWith_of_granted {j : ℕ} {op : TransportOp}
    {k : op.Out → Request (Except TransportError ResponsePacket)} {a : op.Ans} {w' : World}
    (hans : Answered lib calls c j op a w') {t : TrackedSend} {now : UInt64}
    (hround : GrantedRound t now ⟨op, a⟩) (hnone : nextExpectedNonce c.world.db t.sender = none)
    (hseed : nextExpectedNonce w'.db t.sender = some t.l2Nonce) :
    SeededWith lib calls (c.attempt j op k a w').history t.sender t.l2Nonce := by
  obtain ⟨deadlineMs, b, ordering, ⟨⟩, hexit, -⟩ := hround
  have hresult : b.result = .ok (some ordering) := PollAnswer.exit_eq_ok.mp hexit
  obtain rfl := inOrder_of_classified hans.effect hresult hnone
  have ht : (calls j).tracked lib = some t := by
    have hinv := hans.invariant
    cases ht : (calls j).tracked lib with
    | none => simp [ht, CallInvariant, LeavesStore] at hinv
    | some t' =>
      rw [ht] at hinv
      obtain rfl : t = t' := hinv
      rfl
  exact ⟨_, List.mem_cons_self, t, ht, rfl, rfl, ⟨deadlineMs, b, rfl, hresult⟩, hnone, hseed⟩

/-- A sender that was classified has an expected nonce. -/
theorem Session.nextExpectedNonce_ne_none (h : Session lib calls w c) :
    ∀ x ∈ c.history, ∀ t ordering, Classified t ordering x →
      nextExpectedNonce c.world.db t.sender ≠ none := by
  refine Reachable.invariant h (P := fun c => ∀ x ∈ c.history, ∀ t ordering,
    Classified t ordering x → nextExpectedNonce c.world.db t.sender ≠ none)
    (fun x hx => absurd hx List.not_mem_nil) fun d d' m hd hall hm => ?_
  rcases Session.step_cases hd hm with ⟨clock, -, rfl⟩ | ⟨j, op, k, a, w', -, rfl, hans⟩
  · exact hall
  · intro x hx t ordering hclassified
    rcases List.mem_cons.mp hx with rfl | hx
    · obtain ⟨deadlineMs, b, ⟨⟩, hb⟩ := hclassified
      have hafter := (expected_of_classified hans.effect hb).2.2.1
      exact hafter ▸ Option.some_ne_none _
    · obtain ⟨e, he⟩ := Option.ne_none_iff_exists'.mp (hall x hx t ordering hclassified)
      obtain ⟨e', he', -⟩ := le_nextExpectedNonce_effect hans.effect he
      exact he' ▸ Option.some_ne_none _

/-- The expected nonce of every sender came from the seed that its first classification stored, past
nonces that were submitted in order. -/
def GapFree (lib : Externals) (calls : ℕ → RequestCall) (c : SessionConf) : Prop :=
  ∀ sender e, nextExpectedNonce c.world.db sender = some e →
    ∃ seed, SeededWith lib calls c.history sender seed ∧
      Advanced (SubmittedInOrder lib calls c.history sender) (some seed) (some e)

/-- One answered call keeps the expected nonces gap-free. -/
theorem GapFree.attempt (h : Session lib calls w c) (hfree : GapFree lib calls c) {j : ℕ}
    {op : TransportOp} {k : op.Out → Request (Except TransportError ResponsePacket)} {a : op.Ans}
    {w' : World} (hans : Answered lib calls c j op a w') :
    GapFree lib calls (c.attempt j op k a w') := by
  intro sender e he
  have hsub : c.history ⊆ (c.attempt j op k a w').history := List.subset_cons_self ..
  have hkept : ∀ e, nextExpectedNonce c.world.db sender = some e →
      ∃ seed, SeededWith lib calls (c.attempt j op k a w').history sender seed ∧
        Advanced (SubmittedInOrder lib calls (c.attempt j op k a w').history sender)
          (some seed) (some e) := fun e he => by
    obtain ⟨seed, hseed, hadvanced⟩ := hfree sender e he
    exact ⟨seed, hseed.mono hsub, hadvanced.mono fun k _ hk => hk.mono hsub⟩
  rcases nextExpectedNonce_effect hans.effect sender with
    heq | ⟨hnone, t, now, rfl, hround, hseed⟩ | ⟨store, nonce, next, rfl, hnext, hcur, hdb'⟩
  · exact hkept e (heq.symm.trans he)
  · obtain rfl : t.l2Nonce = e := Option.some_inj.mp (hseed.symm.trans he)
    exact ⟨t.l2Nonce, seededWith_of_granted hans hround hnone hseed, Advanced.refl _⟩
  · obtain rfl : next = e := Option.some_inj.mp (hdb'.symm.trans he)
    have hmark := h.submittedInOrder hans.invariant
    -- the request that advances was classified before, so there is a nonce to advance from
    obtain ⟨i, t, -, rfl, -, ⟨x, hx, -, hclassified⟩, -⟩ := id hmark
    obtain ⟨current, hcurrent⟩ :=
      Option.ne_none_iff_exists'.mp (h.nextExpectedNonce_ne_none x hx t _ hclassified)
    obtain ⟨seed, hseed, hadvanced⟩ := hkept current hcurrent
    refine ⟨seed, hseed, hadvanced.succ hnext ?_ (hmark.mono hsub)⟩
    rintro _ ⟨⟩
    exact hcur current hcurrent

/-- The expected nonces of a session are gap-free. -/
theorem Session.gapFree (hw : w.db = Db.empty) (h : Session lib calls w c) :
    GapFree lib calls c := by
  refine Reachable.invariant h (fun sender e he => ?_) fun d d' m hd hfree hm => ?_
  · simp [Conf.start, hw, nextExpectedNonce, Db.empty] at he
  · rcases Session.step_cases hd hm with ⟨clock, -, rfl⟩ | ⟨j, op, k, a, w', -, rfl, hans⟩
    · exact hfree
    · exact hfree.attempt hd hans

/-- The expected nonces of a session never decrease. -/
theorem Session.le_nextExpectedNonce (h : Session lib calls w c)
    (hlead : Leads (machine false) c c') {sender : String} {e : UInt64}
    (he : nextExpectedNonce c.world.db sender = some e) :
    ∃ e', nextExpectedNonce c'.world.db sender = some e' ∧ e ≤ e' := by
  refine Leads.invariant hlead
    (P := fun c => ∃ e', nextExpectedNonce c.world.db sender = some e' ∧ e ≤ e')
    ⟨e, he, UInt64.le_refl e⟩ fun d d' m hcd hd hm => ?_
  obtain ⟨e', he', hle⟩ := hd
  rcases Session.step_cases (Leads.trans h hcd) hm with
    ⟨clock, -, rfl⟩ | ⟨j, op, k, a, w', -, rfl, hans⟩
  · exact ⟨e', he', hle⟩
  · obtain ⟨e'', he'', hle'⟩ := le_nextExpectedNonce_effect hans.effect he'
    exact ⟨e'', he'', UInt64.le_trans hle hle'⟩

/-- The entry classified the nonce of `t`, and the nonce did not exceed the expected nonce. -/
def ClassifiedWithin (t : TrackedSend) (x : Entry TransportOps World) : Prop :=
  ∃ ordering e, Classified t ordering x ∧ nextExpectedNonce x.after.db t.sender = some e ∧
    (∀ e', nextExpectedNonce x.before.db t.sender = some e' → e' = e) ∧ t.l2Nonce ≤ e

/-- A call of `submit_payload` for a tracked request comes after the classification of its nonce,
which did not exceed the expected one. -/
theorem Session.classifiedWithin_of_enterSubmit (h : Session lib calls w c) :
    ∀ later earlier y request t, c.history = later ++ y :: earlier →
      y.event.1 = .enterSubmit request → (calls y.tid).tracked lib = some t →
        ∃ x ∈ earlier, x.tid = y.tid ∧ ClassifiedWithin t x := by
  refine Reachable.invariant h (P := fun c => ∀ later earlier y request t,
    c.history = later ++ y :: earlier → y.event.1 = .enterSubmit request →
      (calls y.tid).tracked lib = some t → ∃ x ∈ earlier, x.tid = y.tid ∧ ClassifiedWithin t x)
    (fun later earlier y request t hsplit => by simp [Conf.start] at hsplit)
    fun d d' m hd hall hm => ?_
  rcases Session.step_cases hd hm with ⟨clock, -, rfl⟩ | ⟨j, op, k, a, w', -, rfl, hans⟩
  · exact hall
  · intro later earlier y request t hsplit hy ht
    cases later with
    | cons z later =>
      obtain ⟨-, htail⟩ := List.cons.inj hsplit
      exact hall later earlier y request t htail hy ht
    | nil =>
      -- the newest entry is the call, and the request holds a grant
      have hd : Session lib calls w d := hd
      obtain ⟨rfl, rfl⟩ := List.cons.inj hsplit
      obtain rfl : op = .enterSubmit request := hy
      have hinv := hans.invariant
      rw [show (calls j).tracked lib = some t from ht] at hinv
      obtain ⟨⟨now, ordering⟩, hgrant⟩ := hinv
      obtain ⟨x, hx, hxj, deadlineMs, b, hevent, hb⟩ := hd.exists_classified ht hgrant
      obtain ⟨d', hd', hans'⟩ := hd.answered_of_mem x hx
      have heff := hans'.effect
      rw [hevent, hd'] at heff
      obtain ⟨hle, -, hafter, hbefore⟩ := expected_of_classified heff hb
      exact ⟨x, hx, hxj, ordering, ordering.expected, ⟨deadlineMs, b, hevent, hb⟩, hafter,
        hbefore, hle⟩

/-- **Nonce progress.** In every session that starts on an empty store the expected nonces never
decrease; each of them started at the nonce of the request whose classification stored it first,
and from there on every nonce below it was classified as in order and submitted; and no tracked
request calls `submit_payload` with a nonce that exceeded the expected one at its
classification. -/
theorem nonceProgress (hw : w.db = Db.empty) (h : Session lib calls w c) :
    (∀ c', Leads (machine false) c c' → ∀ sender e,
      nextExpectedNonce c.world.db sender = some e →
        ∃ e', nextExpectedNonce c'.world.db sender = some e' ∧ e ≤ e') ∧
    (∀ sender e, nextExpectedNonce c.world.db sender = some e →
      ∃ seed ≤ e, SeededWith lib calls c.history sender seed ∧
        ∀ k, seed ≤ k → k < e → SubmittedInOrder lib calls c.history sender k) ∧
    ∀ later earlier y request t, c.history = later ++ y :: earlier →
      y.event.1 = .enterSubmit request → (calls y.tid).tracked lib = some t →
        ∃ x ∈ earlier, x.tid = y.tid ∧ ClassifiedWithin t x := by
  refine ⟨fun _ hlead _ _ he => h.le_nextExpectedNonce hlead he, fun sender e he => ?_,
    h.classifiedWithin_of_enterSubmit⟩
  obtain ⟨seed, hseed, hadvanced⟩ := h.gapFree hw sender e he
  exact ⟨seed, hadvanced.between.1, hseed, hadvanced.between.2⟩

end Sessions

/-- The requests of the sample session have the nonce 0. -/
theorem eq_zero_of_tracked_sampleCalls {i : ℕ} {t : TrackedSend}
    (h : (sampleCalls i).tracked sampleExternals = some t) : t.l2Nonce = 0 := by
  match i with
  | 0 => rw [← Option.some_inj.mp (tracked_sampleCalls_zero.symm.trans h), sampleTracked]
  | 1 => rw [← Option.some_inj.mp (tracked_sampleCalls_one.symm.trans h), sampleTracked]
  | i + 2 => cases (tracked_sampleCalls_idle i).symm.trans h

/-- After the first request of the sample session, its nonce is the one that was passed: the row was
seeded with it, and it was submitted in order. -/
theorem nonceProgress_first_request : ∃ c,
    Session sampleExternals sampleCalls sampleWorld c ∧
      nextExpectedNonce c.world.db sampleSender = some 1 ∧
      SeededWith sampleExternals sampleCalls c.history sampleSender 0 ∧
      SubmittedInOrder sampleExternals sampleCalls c.history sampleSender 0 := by
  obtain ⟨c, hc, hP⟩ := exists_session_of_any sampleExternals sampleCalls sampleWorld
    (sampleMoves 0 11 1700000000000 (.ok sampleResult))
    (fun c => decide (nextExpectedNonce c.world.db sampleSender = some 1))
    (by decide +kernel)
  have he := of_decide_eq_true hP
  obtain ⟨seed, -, hseed, hall⟩ := (nonceProgress rfl hc).2.1 sampleSender 1 he
  have hzero : seed = 0 := by
    obtain ⟨x, -, t, ht, -, rfl, -⟩ := id hseed
    exact eq_zero_of_tracked_sampleCalls ht
  subst hzero
  exact ⟨c, hc, he, hseed, hall 0 (UInt64.le_refl 0) (by decide)⟩

end FoundryIgra
