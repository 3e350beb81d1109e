import FoundryIgra.Rust.Word
import FoundryIgra.Store.Schema

/-!
# Expected nonces of senders

Nonce classification and the compare-and-advance of the expected nonce (`store.rs`,
`classify_nonce_in_tx`, `is_stale_replacement_candidate`, `mark_submitted_in_order_nonce`). Each
function runs inside one SQLite transaction: it returns an error, and the transaction is rolled
back, or the answer together with the tables it commits.

Everything a classification or an advance can do to the expected nonces is in
`classifyNonceInTx_cases` and `markSubmittedInOrderNonce_cases`.

## Main definitions

* `nextExpectedNonce`: the expected nonce of a sender as the code reads it.
* `isStaleReplacementCandidate`, `classifyNonceInTx`, `markSubmittedInOrderNonce`.
-/

namespace FoundryIgra.Store

open Relational Rust

/-- The expected nonce of `sender`, read back through the signed column. -/
def nextExpectedNonce (db : Db) (sender : String) : Option UInt64 :=
  (db.senderNonceState.find? sender).map fun r => r.nextExpectedNonce.toUInt64

/-- Writes the expected nonce of `sender`. -/
def setNextExpectedNonce (db : Db) (sender : String) (nonce now : UInt64) : Db :=
  { db with
    senderNonceState := db.senderNonceState.upsert ⟨sender, nonce.toInt64, now.toInt64⟩ }

theorem nextExpectedNonce_set (db : Db) (sender : String) (nonce now : UInt64) (s : String) :
    nextExpectedNonce (setNextExpectedNonce db sender nonce now) s =
      if sender = s then some nonce else nextExpectedNonce db s := by
  simp only [nextExpectedNonce, setNextExpectedNonce]
  rw [Table.find?_upsert]
  split_ifs with h
  · simp
  · rfl

/-- Another transaction with the same sender and nonce is in `tx_map`
(`is_stale_replacement_candidate`). -/
def isStaleReplacementCandidate (db : Db) (sender : String) (nonce : UInt64)
    (incomingL2TxHash : String) : Bool :=
  db.txMap.rows.any fun r =>
    r.sender = sender ∧ r.l2Nonce = nonce.toInt64 ∧ r.l2TxHash ≠ incomingL2TxHash

/-- `classify_nonce_in_tx` at the clock reading `now`; a sender that has no row yet is seeded with
the nonce it presents. -/
def classifyNonceInTx (db : Db) (sender : String) (nonce : UInt64) (l2TxHash : Option String)
    (now : UInt64) : Except IgraStoreError (NonceOrdering × Db) :=
  let (expected, db) :=
    match nextExpectedNonce db sender with
    | some value => (value, db)
    | none => (nonce, setNextExpectedNonce db sender nonce now)
  if expected < nonce then .error (.blockedNonceGap expected nonce)
  else if nonce = expected then .ok (.inOrder expected, db)
  else
    let replacementCandidate :=
      match l2TxHash with
      | some incoming => isStaleReplacementCandidate db sender nonce incoming
      | none => false
    .ok (.stale expected replacementCandidate, db)

/-- `mark_submitted_in_order_nonce` at the clock reading `now`. -/
def markSubmittedInOrderNonce (db : Db) (sender : String) (nonce now : UInt64) :
    Except IgraStoreError Db :=
  match checkedSucc nonce with
  | none => .error (.nonceOverflow sender nonce)
  | some nextNonce =>
    match nextExpectedNonce db sender with
    | some current =>
      if current = nonce then .ok (setNextExpectedNonce db sender nextNonce now) else .ok db
    | none => .ok (setNextExpectedNonce db sender nextNonce now)

/-- What a successful classification can do: the nonce does not exceed the expected nonce it is
compared with, and only a sender without a row is written, with its own nonce. -/
theorem classifyNonceInTx_cases {db db' : Db} {sender : String} {nonce now : UInt64}
    {hash : Option String} {o : NonceOrdering}
    (h : classifyNonceInTx db sender nonce hash now = .ok (o, db')) :
    nonce ≤ o.expected ∧ (∀ e, o = .inOrder e → nonce = e) ∧
      (nextExpectedNonce db sender = some o.expected ∧ db' = db ∨
        nextExpectedNonce db sender = none ∧ o = .inOrder nonce ∧
          db' = setNextExpectedNonce db sender nonce now) := by
  rw [classifyNonceInTx] at h
  cases he : nextExpectedNonce db sender with
  | none =>
    simp only [he, UInt64.lt_irrefl, if_false, if_true, Except.ok.injEq, Prod.mk.injEq] at h
    obtain ⟨rfl, rfl⟩ := h
    simp [NonceOrdering.expected]
  | some e =>
    simp only [he] at h
    by_cases hlt : e < nonce
    · simp [hlt] at h
    have hle : nonce ≤ e := UInt64.not_lt.mp hlt
    by_cases heq : nonce = e
    · subst heq
      simp only [UInt64.lt_irrefl, if_false, if_true, Except.ok.injEq, Prod.mk.injEq] at h
      obtain ⟨rfl, rfl⟩ := h
      simp [NonceOrdering.expected]
    · simp only [hlt, heq, if_false, Except.ok.injEq, Prod.mk.injEq] at h
      obtain ⟨rfl, rfl⟩ := h
      simp [NonceOrdering.expected, hle]

/-- After a successful classification the stored expected nonce is the one it answered with. -/
theorem nextExpectedNonce_classify {db db' : Db} {sender : String} {nonce now : UInt64}
    {hash : Option String} {o : NonceOrdering}
    (h : classifyNonceInTx db sender nonce hash now = .ok (o, db')) :
    nextExpectedNonce db' sender = some o.expected := by
  obtain ⟨-, -, ⟨he, rfl⟩ | ⟨-, rfl, rfl⟩⟩ := classifyNonceInTx_cases h
  · exact he
  · simp [nextExpectedNonce_set, NonceOrdering.expected]

/-- A classification touches only the nonce table. -/
theorem classifyNonceInTx_frame {db db' : Db} {sender : String} {nonce now : UInt64}
    {hash : Option String} {o : NonceOrdering}
    (h : classifyNonceInTx db sender nonce hash now = .ok (o, db')) :
    db'.txMap = db.txMap ∧ db'.senderLocks = db.senderLocks ∧ db'.schemaMeta = db.schemaMeta := by
  obtain ⟨-, -, ⟨-, rfl⟩ | ⟨-, -, rfl⟩⟩ := classifyNonceInTx_cases h <;> exact ⟨rfl, rfl, rfl⟩

/-- The only refusal of a classification is a nonce gap. -/
theorem classifyNonceInTx_error {db : Db} {sender : String} {nonce now : UInt64}
    {hash : Option String} {err : IgraStoreError}
    (h : classifyNonceInTx db sender nonce hash now = .error err) :
    ∃ e, nextExpectedNonce db sender = some e ∧ e < nonce ∧ err = .blockedNonceGap e nonce := by
  rw [classifyNonceInTx] at h
  cases he : nextExpectedNonce db sender with
  | none => simp [he] at h
  | some e =>
    simp only [he] at h
    by_cases hlt : e < nonce
    · simp only [hlt, if_true, Except.error.injEq] at h
      exact ⟨e, rfl, hlt, h.symm⟩
    · simp only [hlt, if_false] at h
      split_ifs at h

/-- What an advance can do: nothing, or step the expected nonce from `nonce` to its successor. -/
theorem markSubmittedInOrderNonce_cases {db db' : Db} {sender : String} {nonce now : UInt64}
    (h : markSubmittedInOrderNonce db sender nonce now = .ok db') :
    db' = db ∨ ∃ next : UInt64, next.toNat = nonce.toNat + 1 ∧
      (∀ e, nextExpectedNonce db sender = some e → e = nonce) ∧
      db' = setNextExpectedNonce db sender next now := by
  rw [markSubmittedInOrderNonce] at h
  cases hs : checkedSucc nonce with
  | none => simp [hs] at h
  | some next =>
    have hnext : next.toNat = nonce.toNat + 1 := checkedSucc_eq_some.mp hs
    cases he : nextExpectedNonce db sender with
    | none =>
      simp only [hs, he, Except.ok.injEq] at h
      exact Or.inr ⟨next, hnext, by simp, h.symm⟩
    | some current =>
      simp only [hs, he] at h
      split_ifs at h with heq
      · exact Or.inr ⟨next, hnext, by simp [heq], (Except.ok.inj h).symm⟩
      · exact Or.inl (Except.ok.inj h).symm

/-- An advance is refused only at `u64::MAX`. -/
theorem markSubmittedInOrderNonce_error {db : Db} {sender : String} {nonce now : UInt64}
    {err : IgraStoreError} (h : markSubmittedInOrderNonce db sender nonce now = .error err) :
    nonce = u64Max ∧ err = .nonceOverflow sender nonce := by
  rw [markSubmittedInOrderNonce] at h
  cases hs : checkedSucc nonce with
  | none =>
    simp only [hs, Except.error.injEq] at h
    exact ⟨checkedSucc_eq_none.mp hs, h.symm⟩
  | some next =>
    cases he : nextExpectedNonce db sender with
    | none => simp [hs, he] at h
    | some current =>
      simp only [hs, he] at h
      split_ifs at h

/-- An advance leaves the expected nonce above a nonce that it had reached. -/
theorem lt_nextExpectedNonce_of_mark {db db' : Db} {sender : String} {nonce now e : UInt64}
    (h : markSubmittedInOrderNonce db sender nonce now = .ok db')
    (he : nextExpectedNonce db sender = some e) (hle : nonce ≤ e) :
    ∃ e', nextExpectedNonce db' sender = some e' ∧ nonce < e' := by
  rw [markSubmittedInOrderNonce] at h
  cases hs : checkedSucc nonce with
  | none => simp [hs] at h
  | some next =>
    simp only [hs, he] at h
    split_ifs at h with heq
    · obtain rfl := Except.ok.inj h
      have hnext : next.toNat = nonce.toNat + 1 := checkedSucc_eq_some.mp hs
      refine ⟨next, by rw [nextExpectedNonce_set, if_pos rfl], UInt64.lt_iff_toNat_lt.mpr ?_⟩
      omega
    · obtain rfl := Except.ok.inj h
      exact ⟨e, he, UInt64.lt_of_le_of_ne hle (Ne.symm heq)⟩

end FoundryIgra.Store
