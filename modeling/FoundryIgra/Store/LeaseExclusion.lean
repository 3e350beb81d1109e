import FoundryIgra.Store.Cache
import FoundryIgra.Store.SenderLocks

/-!
# The sender lock table as a mutual-exclusion lease

Histories of committed store operations on one database, by any number of opened stores and
owners. An acquisition attempt reads the clock before it obtains the write transaction, so its
reading is only known to be at most the time of its commit. Restricted to one sender, such a
history is a history of one lease cell (`Run.toLease`), whichever of the two acquisition paths an
owner takes.

## Main definitions

* `StoreOp`, `StoreOp.commit`: the operations of an opened store and what they commit.
* `StoreOp.grant`: the lock an operation takes.
* `Commit`, `Run`: histories, most recent first and in the order of commit times.

## Main results

* `StoreOp.commit_cases`: what an operation does to the lock cells.
* `senderLock_mutual_exclusion`: until the recorded expiry no other owner acquires the lock.
-/

namespace FoundryIgra.Store

open Relational Rust

/-- An operation on an opened store, with its clock readings. -/
inductive StoreOp
  | acquire (sender ownerId : String) (now : UInt64)
  | acquireAndClassify (sender ownerId : String) (nonce : UInt64) (l2TxHash : String)
      (now classifyNow : UInt64)
  | release (sender ownerId : String)
  | persist (update : TxLifecycleUpdate) (now : UInt64)
  | classify (sender : String) (nonce now : UInt64)
  | markSubmitted (sender : String) (nonce now : UInt64)
  | prune (now : UInt64) (fileSize : ℕ → UInt64)

/-- A lock that was taken, with the recorded expiry. -/
structure Grant where
  sender : String
  ownerId : String
  expiresAtMs : UInt64
  deriving DecidableEq

theorem toOption_eq_some {ε α : Type} {x : Except ε α} {a : α} :
    x.toOption = some a ↔ x = .ok a := by
  cases x <;> simp [Except.toOption]

namespace StoreOp

/-- The reading an acquisition attempt took before its transaction. -/
def sampledNow : StoreOp → Option UInt64
  | acquire _ _ now => some now
  | acquireAndClassify _ _ _ _ now _ => some now
  | _ => none

/-- What an operation of `store` commits; `none` when it fails and is rolled back. -/
def commit (store : IgraStore) (db : Db) : StoreOp → Option Db
  | acquire sender ownerId now =>
    some (tryAcquireSenderLockOnce db sender ownerId now store.leaseMs).2
  | acquireAndClassify sender ownerId nonce l2TxHash now classifyNow =>
    (tryAcquireSenderLockAndClassifyOnce db sender ownerId nonce l2TxHash now store.leaseMs
      classifyNow).toOption.map Prod.snd
  | release sender ownerId => some (releaseSenderLock db sender ownerId)
  | persist update now => some (persistTransition store db update now)
  | classify sender nonce now => (classifyNonceInTx db sender nonce none now).toOption.map Prod.snd
  | markSubmitted sender nonce now => (markSubmittedInOrderNonce db sender nonce now).toOption
  | prune now fileSize => some (pruneCache store now fileSize db)

/-- The lock that an operation of `store` takes, if it takes one. -/
def grant (store : IgraStore) (db : Db) : StoreOp → Option Grant
  | acquire sender ownerId now =>
    if (tryAcquireSenderLockOnce db sender ownerId now store.leaseMs).1 then
      some ⟨sender, ownerId, store.leaseExpiry now⟩
    else none
  | acquireAndClassify sender ownerId nonce l2TxHash now classifyNow =>
    match tryAcquireSenderLockAndClassifyOnce db sender ownerId nonce l2TxHash now store.leaseMs
        classifyNow with
    | .ok (some _, _) => some ⟨sender, ownerId, store.leaseExpiry now⟩
    | _ => none
  | _ => none

/-- The operation takes a lock, under the rule of the lease cell. -/
def Grants (store : IgraStore) (db db' : Db) (op : StoreOp) : Prop :=
  ∃ g now, op.grant store db = some g ∧ op.sampledNow = some now ∧
    Lease.Admits (lockHolder db g.sender) g.ownerId now.toNat ∧
    ∀ s, lockHolder db' s =
      if g.sender = s then some (g.ownerId, g.expiresAtMs.toNat) else lockHolder db s

/-- The operation leaves the lock cells alone. -/
def Keeps (store : IgraStore) (db db' : Db) (op : StoreOp) : Prop :=
  op.grant store db = none ∧ (∀ s o, op ≠ release s o) ∧ lockHolder db' = lockHolder db

theorem acquire_cases (store : IgraStore) (db : Db) (sender ownerId : String) (now : UInt64) :
    Grants store db (tryAcquireSenderLockOnce db sender ownerId now store.leaseMs).2
        (acquire sender ownerId now) ∨
      Keeps store db (tryAcquireSenderLockOnce db sender ownerId now store.leaseMs).2
        (acquire sender ownerId now) := by
  by_cases hcan : canAcquire db sender ownerId now = true
  · have htry : tryAcquireSenderLockOnce db sender ownerId now store.leaseMs =
        (true, writeSenderLock db sender ownerId now store.leaseMs) := by
      rw [tryAcquireSenderLockOnce, if_pos hcan]
    rw [htry]
    refine Or.inl ⟨⟨sender, ownerId, store.leaseExpiry now⟩, now, ?_, rfl,
      (canAcquire_iff_admits ..).mp hcan, lockHolder_write db sender ownerId now store.leaseMs⟩
    rw [grant, htry, if_pos rfl]
  · have htry : tryAcquireSenderLockOnce db sender ownerId now store.leaseMs = (false, db) := by
      rw [tryAcquireSenderLockOnce, if_neg hcan]
    rw [htry]
    refine Or.inr ⟨?_, by simp, rfl⟩
    rw [grant, htry]
    rfl

theorem acquireAndClassify_cases {store : IgraStore} {db db' : Db} {sender ownerId : String}
    {nonce now classifyNow : UInt64} {hash : String} {o : Option NonceOrdering}
    (h : tryAcquireSenderLockAndClassifyOnce db sender ownerId nonce hash now store.leaseMs
      classifyNow = .ok (o, db')) :
    Grants store db db' (acquireAndClassify sender ownerId nonce hash now classifyNow) ∨
      Keeps store db db' (acquireAndClassify sender ownerId nonce hash now classifyNow) := by
  rcases tryAcquireSenderLockAndClassifyOnce_cases h with ⟨rfl, rfl⟩ | ⟨ordering, rfl, ha, hc⟩
  · refine Or.inr ⟨?_, by simp, rfl⟩
    rw [grant, h]
  · refine Or.inl ⟨⟨sender, ownerId, store.leaseExpiry now⟩, now, ?_, rfl, ha,
      lockHolder_acquired hc⟩
    rw [grant, h]

/-- **What an operation does to the lock cells.** It takes a lock that the cell grants, gives a
lock back, or leaves every cell alone. -/
theorem commit_cases {store : IgraStore} {db db' : Db} {op : StoreOp}
    (h : op.commit store db = some db') :
    Grants store db db' op ∨
      (∃ sender ownerId, op = release sender ownerId ∧
        db' = releaseSenderLock db sender ownerId) ∨
      Keeps store db db' op := by
  have assoc {p q r : Prop} (hpr : p ∨ r) : p ∨ q ∨ r := hpr.imp_right Or.inr
  cases op with
  | acquire sender ownerId now =>
    obtain rfl := Option.some_inj.mp h
    exact assoc (acquire_cases store db sender ownerId now)
  | acquireAndClassify sender ownerId nonce l2TxHash now classifyNow =>
    obtain ⟨⟨o, db''⟩, ho, rfl⟩ := Option.map_eq_some_iff.mp h
    exact assoc (acquireAndClassify_cases (toOption_eq_some.mp ho))
  | release sender ownerId =>
    exact Or.inr (Or.inl ⟨sender, ownerId, rfl, (Option.some_inj.mp h).symm⟩)
  | persist update now =>
    obtain rfl := Option.some_inj.mp h
    exact Or.inr (Or.inr ⟨rfl, by simp, rfl⟩)
  | classify sender nonce now =>
    obtain ⟨⟨o, db''⟩, ho, rfl⟩ := Option.map_eq_some_iff.mp h
    have hlocks := (classifyNonceInTx_frame (toOption_eq_some.mp ho)).2.1
    exact Or.inr (Or.inr ⟨rfl, by simp, lockHolder_congr hlocks⟩)
  | markSubmitted sender nonce now =>
    refine Or.inr (Or.inr ⟨rfl, by simp, ?_⟩)
    rcases markSubmittedInOrderNonce_cases (toOption_eq_some.mp h) with rfl | ⟨_, -, -, rfl⟩
    · rfl
    · rfl
  | prune now fileSize =>
    obtain rfl := Option.some_inj.mp h
    exact Or.inr (Or.inr ⟨rfl, by simp,
      lockHolder_congr (pruneCache_frame store now fileSize db).2.1⟩)

end StoreOp

/-! ### Histories -/

/-- A committed operation with its store, its commit time and the database around it. -/
structure Commit where
  time : ℕ
  store : IgraStore
  op : StoreOp
  before : Db
  after : Db

/-- The lock that a commit took. -/
def Commit.grant (c : Commit) : Option Grant := c.op.grant c.store c.before

/-- `Run db₀ cs db`: the commits `cs`, most recent first, lead from `db₀` to `db`. Commit times do
not decrease, and an attempt's clock reading is at most its commit time. -/
inductive Run (db₀ : Db) : List Commit → Db → Prop
  | nil : Run db₀ [] db₀
  | commit {cs : List Commit} {db db' : Db} (hr : Run db₀ cs db) {time : ℕ} {store : IgraStore}
      {op : StoreOp} (htime : ∀ c ∈ cs, c.time ≤ time)
      (hnow : ∀ now, op.sampledNow = some now → now.toNat ≤ time)
      (hcommit : op.commit store db = some db') : Run db₀ (⟨time, store, op, db, db'⟩ :: cs) db'

/-- What a commit did to the lock cell of `sender`. -/
def Commit.action (sender : String) (c : Commit) : Lease.Action String ℕ :=
  match c.grant with
  | some g => if g.sender = sender then .grant g.ownerId g.expiresAtMs.toNat else .other
  | none =>
    match c.op with
    | .release s ownerId => if s = sender then .release ownerId else .other
    | _ => .other

/-- A commit as an event of the lock cell of `sender`. -/
def Commit.stamped (sender : String) (c : Commit) : Lease.Stamped String ℕ :=
  ⟨c.time, c.action sender⟩

theorem Commit.action_eq_grant {sender ownerId : String} {e : ℕ} {c : Commit} :
    c.action sender = .grant ownerId e ↔
      ∃ g, c.grant = some g ∧ g.sender = sender ∧ g.ownerId = ownerId ∧ g.expiresAtMs.toNat = e := by
  rw [action]
  cases c.grant with
  | none => cases c.op <;> simp [ite_eq_iff]
  | some g => by_cases hs : g.sender = sender <;> simp [hs]

theorem Commit.op_of_action_release {sender ownerId : String} {c : Commit}
    (h : c.action sender = .release ownerId) : c.op = .release sender ownerId := by
  rw [action] at h
  cases hg : c.grant with
  | some g => simp only [hg] at h; split_ifs at h
  | none =>
    simp only [hg] at h
    cases hop : c.op with
    | release s o =>
      simp only [hop] at h
      split_ifs at h with hs
      rw [hs, Lease.Action.release.inj h]
    | _ => simp [hop] at h

/-- **Refinement.** A history of the database, seen at one sender, is a history of a lease cell. -/
theorem Run.toLease {db₀ db : Db} {cs : List Commit} (hr : Run db₀ cs db) (sender : String) :
    Lease.Run (lockHolder db₀ sender) (cs.map (Commit.stamped sender)) (lockHolder db sender) := by
  induction hr with
  | nil => exact Lease.Run.nil
  | @commit cs db db' hr time store op htime hnow hcommit ih =>
    have htime' : ∀ x ∈ cs.map (Commit.stamped sender), x.time ≤ time := by
      rintro x hx
      obtain ⟨c, hc, rfl⟩ := List.mem_map.mp hx
      exact htime c hc
    rw [List.map_cons, Commit.stamped, Commit.action, Commit.grant]
    rcases StoreOp.commit_cases hcommit with ⟨g, now, hg, hs, ha, hh⟩ | ⟨s, o, rfl, rfl⟩ |
      ⟨hg, hne, hh⟩
    · simp only [hg]
      by_cases hsender : g.sender = sender
      · subst hsender
        simp only [if_pos, hh]
        exact ih.grant _ htime' (hnow now hs) ha
      · simp only [if_neg hsender, hh]
        exact ih.other htime'
    · simp only [StoreOp.grant]
      rw [lockHolder_release]
      split_ifs with hsender
      · exact ih.release o htime'
      · exact ih.other htime'
    · simp only [hg, hh]
      cases op with
      | release s o => exact absurd rfl (hne s o)
      | _ => exact ih.other htime'

/-- A release by another owner leaves a lock row as it is. -/
theorem find?_releaseSenderLock_of_ne {db : Db} {s sender ownerId : String} {r : SenderLockRow}
    (h : db.senderLocks.find? s = some r) (hne : ownerId ≠ r.ownerId) :
    (releaseSenderLock db sender ownerId).senderLocks.find? s = some r := by
  rw [releaseSenderLock]
  rw [Table.find?_deleteWhere, h, Option.filter_some_pos]
  simp [hne.symm]

theorem Run.after_of_mem {db₀ db : Db} {cs : List Commit} (hr : Run db₀ cs db) {c : Commit}
    (hc : c ∈ cs) : c.op.commit c.store c.before = some c.after := by
  induction hr with
  | nil => cases hc
  | commit hr htime hnow hcommit ih =>
    rcases List.mem_cons.mp hc with rfl | hc
    · exact hcommit
    · exact ih hc

/-- **The sender lock table is a mutual-exclusion lease.** As long as owner `A` has neither
renewed nor released the lock that its last acquisition recorded until `e`, every other owner's
acquisition since then was committed after `e`; and no release by another owner ever removed a
row of `A`. -/
theorem senderLock_mutual_exclusion {db₀ db : Db} {later earlier : List Commit} {own : Commit}
    {sender A : String} {e : UInt64} (hr : Run db₀ (later ++ own :: earlier) db)
    (hown : own.grant = some ⟨sender, A, e⟩)
    (hlast : ∀ c ∈ later, ∀ e', c.grant ≠ some ⟨sender, A, e'⟩)
    (hheld : ∀ c ∈ later, c.op ≠ .release sender A) :
    (∀ c ∈ later, ∀ B e', B ≠ A → c.grant = some ⟨sender, B, e'⟩ → e.toNat < c.time) ∧
      ∀ c ∈ later ++ own :: earlier, ∀ s B r, B ≠ A → c.op = .release s B →
        c.before.senderLocks.find? sender = some r → r.ownerId = A →
        c.after.senderLocks.find? sender = some r := by
  constructor
  · rintro c hc B e' hne hB
    obtain ⟨newer, between, rfl⟩ := List.append_of_mem hc
    have hrun := hr.toLease sender
    have hownA : own.stamped sender = ⟨own.time, .grant A e.toNat⟩ :=
      congrArg _ (Commit.action_eq_grant.mpr ⟨_, hown, rfl, rfl, rfl⟩)
    have hcB : c.stamped sender = ⟨c.time, .grant B e'.toNat⟩ :=
      congrArg _ (Commit.action_eq_grant.mpr ⟨_, hB, rfl, rfl, rfl⟩)
    simp only [List.append_assoc, List.cons_append, List.map_append, List.map_cons, hownA, hcB]
      at hrun
    have hbetween : ∀ x ∈ between, x ∈ newer ++ c :: between := fun x hx =>
      List.mem_append_right _ (List.mem_cons_of_mem _ hx)
    refine hrun.expiry_lt_time ?_ ?_ hne
    · rintro x hx t hgrant
      obtain ⟨y, hy, rfl⟩ := List.mem_map.mp hx
      obtain ⟨⟨s', o', e''⟩, hg, rfl, rfl, -⟩ := Commit.action_eq_grant.mp hgrant
      exact hlast y (hbetween y hy) e'' hg
    · rintro x hx hrel
      obtain ⟨y, hy, rfl⟩ := List.mem_map.mp hx
      exact hheld y (hbetween y hy) (Commit.op_of_action_release hrel)
  · rintro c hc s B r hne hop hr' rfl
    have hafter := hr.after_of_mem hc
    rw [hop] at hafter
    obtain hafter := Option.some_inj.mp hafter
    rw [← hafter]
    exact find?_releaseSenderLock_of_ne hr' hne

/-- The first owner takes the lock at time 0, until 2000; after a release by a third owner the
second owner is let in at time 2001. -/
theorem senderLock_mutual_exclusion_takeover :
    ∃ taken released own db, Run Db.empty [taken, released, own] db ∧
      own.grant = some ⟨"0x1111", "owner-a", 2000⟩ ∧
      taken.grant = some ⟨"0x1111", "owner-b", 4001⟩ ∧ (2000 : UInt64).toNat < taken.time ∧
      released.after.senderLocks.find? "0x1111" = some ⟨"0x1111", "owner-a", 2000, 0⟩ := by
  have h₁ : Run Db.empty [⟨0, oneSecondStore, .acquire "0x1111" "owner-a" 0, _, _⟩] _ :=
    .commit .nil (by simp) (by simp [StoreOp.sampledNow]) rfl
  have h₂ : Run Db.empty (⟨1999, oneSecondStore, .release "0x1111" "owner-c", _, _⟩ :: _) _ :=
    h₁.commit (by simp) (by simp [StoreOp.sampledNow]) rfl
  have h₃ : Run Db.empty
      ([⟨2001, oneSecondStore, .acquire "0x1111" "owner-b" 2001, _, _⟩, _] ++ _ :: []) _ :=
    h₂.commit (by simp) (by simp [StoreOp.sampledNow]) rfl
  have hown : StoreOp.grant oneSecondStore Db.empty (.acquire "0x1111" "owner-a" 0) =
      some ⟨"0x1111", "owner-a", 2000⟩ := by decide +kernel
  obtain ⟨hexpired, hkept⟩ := senderLock_mutual_exclusion h₃ hown
    (by
      rintro c hc e' hgrant
      have howner : c.grant.map Grant.ownerId = some "owner-a" := by rw [hgrant]; rfl
      rcases List.mem_pair.mp hc with rfl | rfl
      · exact absurd howner (by decide +kernel)
      · exact absurd howner (by decide +kernel))
    (by simp)
  exact ⟨_, _, _, _, h₃, hown, by decide +kernel,
    hexpired _ List.mem_cons_self "owner-b" 4001 (by decide) (by decide +kernel),
    hkept _ (by simp) "0x1111" "owner-c" _ (by decide) rfl (by decide +kernel) rfl⟩

end FoundryIgra.Store
