import FoundryIgra.Store.Contention
import FoundryIgra.Transport.Serialization

/-!
# Lock owner ids

A lock owner id is the text `sender:nonce:millis-pid-counter-hash`. Read from the left, every field
but the last ends at the first separator that it cannot hold: a sender is `0x` and hexadecimal
digits, the others are decimal. So an id determines its fields up to the counter, whatever the
clock and the hash are (`buildLockOwnerId_inj`), and the counter of a process tells its requests
apart (`next_request_counter`).

## Main definitions

* `IsHexAddress`: the form of a sender.
* `SendCall`, `trackedSends`: the calls of `tracked_send` of any number of processes.

## Main results

* `buildLockOwnerId_inj`: an id determines the sender, the nonce and the stamp.
* `distinctOwners_of_stamps`: the requests of a session have distinct ids.
* `lockOwnerIds_distinct`: two requests never share an id, and none is let in on the lock of
  another before it has expired.
-/

namespace FoundryIgra

open Rust Store

/-! ### Unique parsing -/

/-- `0x` and hexadecimal digits. -/
def IsHexAddress (s : String) : Prop :=
  ∃ digits, s.toList = '0' :: 'x' :: digits ∧ ∀ c ∈ digits, isAsciiHexdigit c = true

theorem IsHexAddress.colon_notMem {s : String} (h : IsHexAddress s) : ':' ∉ s.toList := by
  obtain ⟨digits, hs, hdigits⟩ := h
  rw [hs]
  intro hmem
  rcases List.mem_cons.mp hmem with h | hmem
  · exact absurd h (by decide)
  · rcases List.mem_cons.mp hmem with h | hmem
    · exact absurd h (by decide)
    · exact absurd (hdigits ':' hmem) (by decide)

theorem notMem_toString {c : Char} (hc : c.isDigit = false) (a : UInt64) :
    c ∉ (toString a).toList := fun hmem => by
  rw [isDigit_of_mem_toString hmem] at hc
  cases hc

theorem notMem_toString32 {c : Char} (hc : c.isDigit = false) (a : UInt32) :
    c ∉ (toString a).toList := fun hmem => by
  rw [isDigit_of_mem_toString32 hmem] at hc
  cases hc

/-- A correlation id with any suffix in the place of the hash. -/
def correlationText (stamp : RequestStamp) (suffix : String) : String :=
  toString stamp.millis ++ "-" ++ toString stamp.pid ++ "-" ++ toString stamp.counter ++ "-" ++
    suffix

theorem buildCorrelationId_eq (lib : Externals) (l2TxHash : String) (stamp : RequestStamp) :
    ∃ suffix, buildCorrelationId lib l2TxHash stamp = correlationText stamp suffix :=
  ⟨_, rfl⟩

theorem correlationText_inj {stamp stamp' : RequestStamp} {suffix suffix' : String}
    (h : correlationText stamp suffix = correlationText stamp' suffix') : stamp = stamp' := by
  have hchars := congrArg String.toList h
  simp only [correlationText, String.toList_append, List.append_assoc] at hchars
  have hdash : ('-' : Char).isDigit = false := by decide
  obtain ⟨hmillis, hrest⟩ :=
    append_cons_inj_left (notMem_toString hdash _) (notMem_toString hdash _) hchars
  obtain ⟨hpid, hrest⟩ :=
    append_cons_inj_left (notMem_toString32 hdash _) (notMem_toString32 hdash _) hrest
  obtain ⟨hcounter, -⟩ :=
    append_cons_inj_left (notMem_toString hdash _) (notMem_toString hdash _) hrest
  obtain ⟨millis, pid, counter⟩ := stamp
  obtain ⟨millis', pid', counter'⟩ := stamp'
  obtain rfl := toString_inj.mp (String.toList_inj.mp hmillis)
  obtain rfl := toString_inj32 (String.toList_inj.mp hpid)
  obtain rfl := toString_inj.mp (String.toList_inj.mp hcounter)
  rfl

/-- **Unique parsing.** An owner id determines the sender, the nonce, the clock reading, the
process and the counter, without the hash. -/
theorem buildLockOwnerId_inj {lib lib' : Externals} {sender sender' hash hash' : String}
    {nonce nonce' : UInt64} {stamp stamp' : RequestStamp} (hs : IsHexAddress sender)
    (hs' : IsHexAddress sender')
    (h : buildLockOwnerId sender nonce (buildCorrelationId lib hash stamp) =
      buildLockOwnerId sender' nonce' (buildCorrelationId lib' hash' stamp')) :
    sender = sender' ∧ nonce = nonce' ∧ stamp = stamp' := by
  obtain ⟨suffix, hcorr⟩ := buildCorrelationId_eq lib hash stamp
  obtain ⟨suffix', hcorr'⟩ := buildCorrelationId_eq lib' hash' stamp'
  rw [hcorr, hcorr'] at h
  have hchars := congrArg String.toList h
  simp only [buildLockOwnerId, String.toList_append, List.append_assoc] at hchars
  have hcolon : (':' : Char).isDigit = false := by decide
  obtain ⟨hsender, hrest⟩ := append_cons_inj_left hs.colon_notMem hs'.colon_notMem hchars
  obtain ⟨hnonce, hrest⟩ :=
    append_cons_inj_left (notMem_toString hcolon _) (notMem_toString hcolon _) hrest
  exact ⟨String.toList_inj.mp hsender, toString_inj.mp (String.toList_inj.mp hnonce),
    correlationText_inj (String.toList_inj.mp hrest)⟩

/-- The sender of a tracked request is what the libraries recovered. -/
theorem exists_signer_of_tracked {self : IgraTransport} {lib : Externals} {stamp : RequestStamp}
    {packet : RequestPacket} {t : TrackedSend} (h : self.tracked lib stamp packet = some t) :
    (∃ tx, lib.recoverSigner tx = .ok t.sender) ∧ ∃ hash, t.lockOwnerId =
      buildLockOwnerId t.sender t.l2Nonce (buildCorrelationId lib hash stamp) := by
  rw [IgraTransport.tracked] at h
  split at h
  next rawSend hroute =>
    obtain ⟨-, hsender, howner⟩ := exists_of_trackedSend h
    obtain ⟨-, hraw⟩ := IgraTransport.route_eq_send_iff.mp hroute
    obtain ⟨-, -, -, -, -, -, -, -, hmeta⟩ := rawSendRequest_eq_some hraw
    obtain ⟨tx, -, sender, -, hsigner, hmeta⟩ := rawTxMetadataFromRawTx_eq_ok hmeta
    rw [hmeta] at hsender
    obtain rfl := Option.some_inj.mp hsender
    exact ⟨⟨tx, hsigner⟩, _, howner⟩
  next => cases h

/-- The tracked requests of a session have distinct owner ids when signers are addresses and no
two of the requests have both the process and the counter in common. -/
theorem distinctOwners_of_stamps {lib : Externals} {calls : ℕ → RequestCall}
    (hsigner : ∀ tx sender, lib.recoverSigner tx = .ok sender → IsHexAddress sender)
    (hstamps : ∀ i j t t', (calls i).tracked lib = some t → (calls j).tracked lib = some t' →
      (calls i).stamp.pid = (calls j).stamp.pid →
      (calls i).stamp.counter = (calls j).stamp.counter → i = j) :
    DistinctOwners lib calls := by
  intro i j t t' ht ht' howner
  obtain ⟨⟨tx, hs⟩, hash, hid⟩ := exists_signer_of_tracked ht
  obtain ⟨⟨tx', hs'⟩, hash', hid'⟩ := exists_signer_of_tracked ht'
  rw [hid, hid'] at howner
  obtain ⟨-, -, hstamp⟩ := buildLockOwnerId_inj (hsigner _ _ hs) (hsigner _ _ hs') howner
  exact hstamps i j t t' ht ht' (congrArg RequestStamp.pid hstamp)
    (congrArg RequestStamp.counter hstamp)

/-! ### Counters -/

section Counters

variable {Process : Type}

/-- `next_request_counter`: what `fetch_add` returns and leaves; it wraps around. -/
def nextRequestCounter (counter : UInt64) : UInt64 × UInt64 := (counter, counter + 1)

/-- A call of `tracked_send`: the process it is made in, the transport, the metadata of the
transaction and the reading of the clock. -/
structure SendCall (Process : Type) where
  process : Process
  transport : IgraTransport
  metadata : RawTxMetadata
  millis : UInt64

variable [DecidableEq Process] (lib : Externals) (pid : Process → UInt32)

/-- What the calls return, in the order in which they advance the counters of their processes; a
call that is not tracked advances none. -/
def trackedSends (counters : Process → UInt64) : List (SendCall Process) → List (Option TrackedSend)
  | [] => []
  | call :: calls =>
    let (counter, next) := nextRequestCounter (counters call.process)
    let stamp : RequestStamp := ⟨call.millis, pid call.process, counter⟩
    match call.transport.trackedSend lib call.metadata stamp with
    | some t => some t :: trackedSends (Function.update counters call.process next) calls
    | none => none :: trackedSends counters calls

/-- `REQUEST_COUNTER` when a process starts. -/
def initialCounters : Process → UInt64 := fun _ => 1

/-- The call is tracked. -/
def SendCall.isTracked (call : SendCall Process) : Bool :=
  call.transport.store.isSome && call.metadata.sender.isSome && call.metadata.nonce.isSome

/-- How many calls of a process are tracked. -/
def trackedCount (p : Process) (calls : List (SendCall Process)) : ℕ :=
  calls.countP fun call => call.process = p ∧ call.isTracked = true

omit [DecidableEq Process] in
theorem isSome_trackedSend (call : SendCall Process) (stamp : RequestStamp) :
    (call.transport.trackedSend lib call.metadata stamp).isSome = call.isTracked := by
  rw [IgraTransport.trackedSend, SendCall.isTracked]
  cases call.transport.store with
  | none => rfl
  | some store =>
    cases call.metadata.sender with
    | none => rfl
    | some sender => cases call.metadata.nonce <;> rfl

variable {lib pid}

theorem trackedCount_cons (p : Process) (call : SendCall Process)
    (calls : List (SendCall Process)) : trackedCount p (call :: calls) =
      trackedCount p calls + if call.process = p ∧ call.isTracked = true then 1 else 0 := by
  simp [trackedCount, List.countP_cons]

/-- **Counters.** A tracked call reads the initial counter of its process, advanced once for each
tracked call of the process before it. -/
theorem exists_of_trackedSends {counters : Process → UInt64} {calls : List (SendCall Process)}
    {j : ℕ} {t : TrackedSend}
    (h : (trackedSends lib pid counters calls)[j]? = some (some t)) :
    ∃ call, calls[j]? = some call ∧ call.isTracked = true ∧
      call.transport.trackedSend lib call.metadata ⟨call.millis, pid call.process,
        counters call.process + UInt64.ofNat (trackedCount call.process (calls.take j))⟩ =
          some t := by
  induction calls generalizing counters j with
  | nil => simp [trackedSends] at h
  | cons call calls ih =>
    have htracked := isSome_trackedSend lib call
      ⟨call.millis, pid call.process, counters call.process⟩
    simp only [trackedSends, nextRequestCounter] at h
    split at h
    next t₀ hsend =>
      rw [hsend] at htracked
      cases j with
      | zero =>
        obtain rfl : t₀ = t := by simpa using h
        exact ⟨call, rfl, htracked.symm, by simpa [trackedCount] using hsend⟩
      | succ j =>
        rw [List.getElem?_cons_succ] at h
        obtain ⟨call', hcall', htr', hsend'⟩ := ih h
        refine ⟨call', hcall', htr', ?_⟩
        rw [← hsend', List.take_succ_cons, trackedCount_cons]
        congr 2
        by_cases hp : call.process = call'.process
        · rw [if_pos ⟨hp, htracked.symm⟩, hp, Function.update_self, UInt64.ofNat_add,
            UInt64.add_comm (UInt64.ofNat _), ← UInt64.add_assoc]
          rfl
        · rw [if_neg fun hand => hp hand.1, Function.update_of_ne (Ne.symm hp), Nat.add_zero]
    next hsend =>
      rw [hsend] at htracked
      cases j with
      | zero => simp at h
      | succ j =>
        rw [List.getElem?_cons_succ] at h
        obtain ⟨call', hcall', htr', hsend'⟩ := ih h
        refine ⟨call', hcall', htr', ?_⟩
        rw [List.take_succ_cons, trackedCount_cons,
          if_neg fun hand => Bool.false_ne_true (htracked.trans hand.2), Nat.add_zero]
        exact hsend'

/-- A tracked call is counted in every longer prefix. -/
theorem trackedCount_take_lt {calls : List (SendCall Process)} {i j : ℕ} (hij : i < j)
    {call : SendCall Process} (hcall : calls[i]? = some call) (htr : call.isTracked = true) :
    trackedCount call.process (calls.take i) < trackedCount call.process (calls.take j) := by
  have hsucc : calls.take (i + 1) = calls.take i ++ [call] := by
    rw [List.take_add_one, hcall, Option.toList_some]
  have hle : trackedCount call.process (calls.take (i + 1)) ≤
      trackedCount call.process (calls.take j) :=
    (List.take_sublist_take_left hij).countP_le
  have hadd : trackedCount call.process (calls.take (i + 1)) =
      trackedCount call.process (calls.take i) + 1 := by
    rw [hsucc]
    simp [trackedCount, htr]
  omega

theorem trackedCount_take_le (p : Process) (calls : List (SendCall Process)) (j : ℕ) :
    trackedCount p (calls.take j) ≤ (calls.filter fun call => call.process = p).length := by
  rw [← List.countP_eq_length_filter]
  refine ((List.take_sublist j calls).countP_le).trans (List.countP_mono_left fun call _ h => ?_)
  simpa using (of_decide_eq_true h).1

/-- Below `2 ^ 64` tracked calls a process never reads one counter twice. -/
theorem counter_ne {c : UInt64} {m n : ℕ} (hmn : m < n) (hn : n < 2 ^ 64) :
    c + UInt64.ofNat m ≠ c + UInt64.ofNat n := by
  intro h
  have heq : UInt64.ofNat m = UInt64.ofNat n := UInt64.add_right_inj c |>.mp h
  have hnat := congrArg UInt64.toNat heq
  rw [UInt64.toNat_ofNat', UInt64.toNat_ofNat', Nat.mod_eq_of_lt hn,
    Nat.mod_eq_of_lt (hmn.trans hn)] at hnat
  omega

theorem lockOwnerId_ne_of_lt (hpid : Function.Injective pid) {counters : Process → UInt64}
    {calls : List (SendCall Process)}
    (hsender : ∀ call ∈ calls, ∀ s, call.metadata.sender = some s → IsHexAddress s)
    (hcount : ∀ p, (calls.filter fun call => call.process = p).length < 2 ^ 64) {i j : ℕ}
    {t t' : TrackedSend} (hij : i < j)
    (ht : (trackedSends lib pid counters calls)[i]? = some (some t))
    (ht' : (trackedSends lib pid counters calls)[j]? = some (some t')) :
    t.lockOwnerId ≠ t'.lockOwnerId := by
  obtain ⟨call, hcall, htr, hsend⟩ := exists_of_trackedSends ht
  obtain ⟨call', hcall', -, hsend'⟩ := exists_of_trackedSends ht'
  obtain ⟨-, hs, hid⟩ := exists_of_trackedSend hsend
  obtain ⟨-, hs', hid'⟩ := exists_of_trackedSend hsend'
  have hhex := hsender call (List.mem_of_getElem? hcall) _ hs
  have hhex' := hsender call' (List.mem_of_getElem? hcall') _ hs'
  intro howner
  rw [hid, hid'] at howner
  obtain ⟨-, -, hstamp⟩ := buildLockOwnerId_inj hhex hhex' howner
  obtain ⟨-, hp, hcounter⟩ := RequestStamp.mk.inj hstamp
  -- one process: the earlier call advanced the counter
  rw [← hpid hp] at hcounter
  exact counter_ne (trackedCount_take_lt hij hcall htr)
    ((trackedCount_take_le _ _ _).trans_lt (hcount _)) hcounter

/-- **Lock owner ids never collide.** Of the requests of any processes with distinct ids, each
making fewer than `2 ^ 64`, no two have one owner id, whatever the clocks and the hashes are; so
a request is let in on the lock of another exactly when that has expired. -/
theorem lockOwnerIds_distinct (lib : Externals) {pid : Process → UInt32}
    (hpid : Function.Injective pid) (calls : List (SendCall Process))
    (hsender : ∀ call ∈ calls, ∀ s, call.metadata.sender = some s → IsHexAddress s)
    (hcount : ∀ p, (calls.filter fun call => call.process = p).length < 2 ^ 64) {i j : ℕ}
    {t t' : TrackedSend} (hij : i ≠ j)
    (ht : (trackedSends lib pid initialCounters calls)[i]? = some (some t))
    (ht' : (trackedSends lib pid initialCounters calls)[j]? = some (some t')) :
    t.lockOwnerId ≠ t'.lockOwnerId ∧
      ∀ db sender expiry now, lockHolder db sender = some (t.lockOwnerId, expiry) →
        (canAcquire db sender t'.lockOwnerId now = true ↔ expiry < now.toNat) := by
  have hne : t.lockOwnerId ≠ t'.lockOwnerId := by
    rcases Nat.lt_or_gt_of_ne hij with hlt | hgt
    · exact lockOwnerId_ne_of_lt hpid hsender hcount hlt ht ht'
    · exact (lockOwnerId_ne_of_lt hpid hsender hcount hgt ht' ht).symm
  exact ⟨hne, fun db sender expiry now hheld => canAcquire_iff_lt hne hheld now⟩

end Counters

/-- A call of the process 4242. -/
def sampleSendCall (millis : UInt64) : SendCall Unit where
  process := ()
  transport := sampleTransport
  metadata := ⟨sampleHash, some sampleSender, some 0⟩
  millis := millis

theorem isHexAddress_sampleSender : IsHexAddress sampleSender :=
  ⟨sampleSender.toList.drop 2, by decide +kernel, List.all_eq_true.mp (by decide +kernel)⟩

/-- The two requests of the sample session are told apart. -/
theorem lockOwnerIds_distinct_sample : ∃ t t',
    trackedSends sampleExternals (fun _ => 4242) initialCounters
      [sampleSendCall 1700000000000, sampleSendCall 1700000002001] = [some t, some t'] ∧
    t.lockOwnerId ≠ t'.lockOwnerId := by
  have hpid : Function.Injective fun _ : Unit => (4242 : UInt32) := fun _ _ _ => rfl
  have hsender : ∀ call ∈ [sampleSendCall 1700000000000, sampleSendCall 1700000002001],
      ∀ s, call.metadata.sender = some s → IsHexAddress s := by
    intro call hcall s hs
    obtain rfl | rfl : call = _ ∨ call = _ := by simpa using hcall
    · exact Option.some_inj.mp hs ▸ isHexAddress_sampleSender
    · exact Option.some_inj.mp hs ▸ isHexAddress_sampleSender
  have hcount : ∀ p, ([sampleSendCall 1700000000000, sampleSendCall 1700000002001].filter
      fun call => call.process = p).length < 2 ^ 64 :=
    fun p => (List.length_filter_le ..).trans_lt (by decide)
  refine ⟨_, _, rfl, ?_⟩
  exact (lockOwnerIds_distinct sampleExternals hpid _ hsender hcount (i := 0) (j := 1) (by decide)
    rfl rfl).1

end FoundryIgra
