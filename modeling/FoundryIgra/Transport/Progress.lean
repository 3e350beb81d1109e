import FoundryIgra.Transport.Request

/-!
# What a request has done

A ghost value for one request, folded along its calls: the lock grant or the refusal it got, what
the submitter answered, the last lifecycle record it wrote. The weakest precondition of
`IgraTransport::request` over this value, with no store failure, gives what holds at each of its
calls (`Pending`) and when it returns (`Final`).

## Main definitions

* `Progress`, `Progress.after`: the ghost value.
* `Succeeds`: an answer that is no failure of the store.
* `Pending`, `Final`: the assertions of a tracked request.
* `LeavesStore`: the calls of every other request.

## Main results

* `Progress.after_cases`: what a call can change.
* `holds_acquire`, `holds_recordSubmission`, `holds_finish`, `holds_request_of_tracked`: the rules
  of the parts of a tracked request, for any assertion.
* `holds_request`: every request meets its assertions.
-/

namespace FoundryIgra

open Rust Store Concurrency

/-- What a request has done so far. -/
structure Progress where
  /-- The clock reading and the classification of the acquisition. -/
  grant : Option (UInt64 × NonceOrdering)
  /-- The error of the acquisition. -/
  refusal : Option IgraStoreError
  /-- `submit_payload` was called. -/
  entered : Bool
  /-- What `submit_payload` returned. -/
  answer : Option (Except String IgraSubmitResult)
  /-- The last lifecycle record that was written. -/
  lastWrite : Option TxLifecycleUpdate
  /-- The lock was released. -/
  released : Bool

namespace Progress

/-- Nothing was done yet. -/
def start : Progress := ⟨none, none, false, none, none, false⟩

/-- After an acquisition round. -/
def polled (g : Progress) (a : PollAnswer) : Progress :=
  match a.exit with
  | none => g
  | some (.ok ordering) => { g with grant := some (a.now, ordering) }
  | some (.error err) => { g with refusal := some err }

/-- After a call that was answered `a`. -/
def after (g : Progress) : (op : TransportOp) → op.Ans → Progress
  | .innerCall _, _ => g
  | .persist _ u, .ok _ => { g with lastWrite := some u }
  | .persist _ _, .error _ => g
  | .startAcquire _, .ok _ => g
  | .startAcquire _, .error err => { g with refusal := some err }
  | .pollLock _ _, a => g.polled a
  | .enterSubmit _, _ => { g with entered := true }
  | .leaveSubmit _, a => { g with answer := some a }
  | .markSubmitted _ _ _, _ => g
  | .release _ _ _, _ => { g with released := true }

/-- **What a call can change**: at most one field, each by its own calls. -/
theorem after_cases (g : Progress) (op : TransportOp) (a : op.Ans) :
    g.after op a = g ∨
    (∃ store u, op = .persist store u ∧ g.after op a = { g with lastWrite := some u }) ∨
    (∃ (t : TrackedSend) (deadlineMs : UInt64) (b : PollAnswer) (ordering : NonceOrdering),
      (⟨op, a⟩ : TransportOps.Event) = ⟨.pollLock t deadlineMs, b⟩ ∧
        b.exit = some (.ok ordering) ∧ g.after op a = { g with grant := some (b.now, ordering) }) ∨
    (∃ err, ((∃ store : IgraStore, (⟨op, a⟩ : TransportOps.Event) =
        ⟨.startAcquire store, .error err⟩) ∨
      ∃ (t : TrackedSend) (deadlineMs : UInt64) (b : PollAnswer),
        (⟨op, a⟩ : TransportOps.Event) = ⟨.pollLock t deadlineMs, b⟩ ∧
          b.exit = some (.error err)) ∧ g.after op a = { g with refusal := some err }) ∨
    (∃ request, op = .enterSubmit request ∧ g.after op a = { g with entered := true }) ∨
    (∃ (request : IgraSubmitRequest) (r : Except String IgraSubmitResult),
      (⟨op, a⟩ : TransportOps.Event) = ⟨.leaveSubmit request, r⟩ ∧
        g.after op a = { g with answer := some r }) ∨
    ∃ store sender ownerId, op = .release store sender ownerId ∧
      g.after op a = { g with released := true } := by
  cases op with
  | innerCall packet => exact Or.inl rfl
  | persist store u =>
    cases a with
    | error err => exact Or.inl rfl
    | ok _ => exact Or.inr (Or.inl ⟨store, u, rfl, rfl⟩)
  | startAcquire store =>
    cases a with
    | error err => exact Or.inr (Or.inr (Or.inr (Or.inl ⟨err, Or.inl ⟨store, rfl⟩, rfl⟩)))
    | ok now => exact Or.inl rfl
  | pollLock t deadlineMs =>
    simp only [after, polled]
    rcases hexit : PollAnswer.exit a with _ | err | ordering
    · exact Or.inl rfl
    · exact Or.inr (Or.inr (Or.inr (Or.inl
        ⟨err, Or.inr ⟨t, deadlineMs, a, rfl, hexit⟩, rfl⟩)))
    · exact Or.inr (Or.inr (Or.inl ⟨t, deadlineMs, a, ordering, rfl, hexit, rfl⟩))
  | enterSubmit request => exact Or.inr (Or.inr (Or.inr (Or.inr (Or.inl ⟨request, rfl, rfl⟩))))
  | leaveSubmit request =>
    exact Or.inr (Or.inr (Or.inr (Or.inr (Or.inr (Or.inl ⟨request, a, rfl, rfl⟩)))))
  | markSubmitted store sender nonce => exact Or.inl rfl
  | release store sender ownerId =>
    exact Or.inr (Or.inr (Or.inr (Or.inr (Or.inr (Or.inr ⟨store, sender, ownerId, rfl, rfl⟩)))))

/-- `after`, as the step of a fold along events. -/
def step (g : Progress) (e : TransportOps.Event) : Progress := g.after e.1 e.2

end Progress

/-- The answer is no failure of the store: an acquisition is refused only by a timeout or a nonce
gap. -/
def Succeeds : (op : TransportOp) → op.Ans → Prop
  | .persist _ _, a => a = .ok ()
  | .startAcquire _, a => ∃ now, a = .ok now
  | .pollLock tracked _, a => ∀ err, a.result = .error err →
      err = .lockTimeout tracked.sender ∨ ∃ expected, err = .blockedNonceGap expected tracked.l2Nonce
  | _, _ => True

/-- The weakest precondition of a request over its progress, without store failures. -/
def Holds {α : Type} (J : Progress → TransportOp → Prop) (post : α → Progress → Prop)
    (p : Request α) (g : Progress) : Prop :=
  Program.wp (I := TransportOps) (fun e => Succeeds e.1 e.2) Progress.step J post p g

section Rules

variable {α β : Type} {J : Progress → TransportOp → Prop} {post : α → Progress → Prop}
  {g : Progress}

@[simp] theorem holds_pure {a : α} : Holds J post (pure a) g ↔ post a g := Iff.rfl

theorem holds_bind {post : β → Progress → Prop} {p : Request α} {f : α → Request β} :
    Holds J post (p >>= f) g ↔ Holds J (fun a g => Holds J post (f a) g) p g :=
  Program.wp_bind ..

/-- The rule of a call. -/
theorem holds_call {op : TransportOp} {post : op.Out → Progress → Prop} (hJ : J g op)
    (h : ∀ a, Succeeds op a → match TransportOps.exit op a with
      | none => g.after op a = g
      | some b => post b (g.after op a)) : Holds J post (call op) g := by
  refine ⟨hJ, fun a ha => ?_⟩
  have hstep := h a ha
  cases hx : TransportOps.exit op a with
  | none =>
    rw [hx] at hstep
    exact hstep
  | some b =>
    rw [hx] at hstep
    exact hstep

theorem holds_persist {post : Unit → Progress → Prop} {tracked : TrackedSend}
    {state : TxLifecycleState} {payloadNonce : Option UInt64} {txId code message : Option String}
    {increment : Bool}
    (hJ : J g (.persist tracked.store
      (tracked.update state payloadNonce txId code message increment)))
    (h : post () { g with
      lastWrite := some (tracked.update state payloadNonce txId code message increment) }) :
    Holds J post
      (persistTransitionSafe tracked state payloadNonce txId code message increment) g := by
  refine holds_bind.mpr (holds_call hJ ?_)
  rintro a rfl
  exact h

theorem holds_forTracked_none {post : Unit → Progress → Prop} {f : TrackedSend → Request Unit}
    (h : post () g) : Holds J post (forTracked none f) g := h

end Rules

/-! ### Tracked requests -/

/-- The record of a failure. -/
def TrackedSend.failure (tracked : TrackedSend) (errText : String) : TxLifecycleUpdate :=
  tracked.update .failedRecoverable none none (failureCode errText) (some errText) true

/-- The record of a broadcast. -/
def TrackedSend.broadcast (tracked : TrackedSend) (observation : ReplacementObservation)
    (result : IgraSubmitResult) : TxLifecycleUpdate :=
  tracked.update .kaspaBroadcasted (some result.payloadNonce) (some result.kaspaTxId)
    (observation.map Prod.fst) (observation.map Prod.snd) false

/-- What holds when a tracked request makes a call. -/
def Pending (tracked : TrackedSend) (g : Progress) : TransportOp → Prop
  | .innerCall _ => False
  | .persist store u => store = tracked.store ∧ u.l2TxHash = tracked.l2TxHash
  | .startAcquire store => store = tracked.store
  | .pollLock t _ => t = tracked
  | .enterSubmit _ => ∃ p, g.grant = some p
  | .leaveSubmit _ => g.released = false ∧ ∃ p, g.grant = some p
  | .markSubmitted store sender nonce =>
    store = tracked.store ∧ sender = tracked.sender ∧ nonce = tracked.l2Nonce ∧
      (∃ now e, g.grant = some (now, .inOrder e)) ∧ ∃ r, g.answer = some (.ok r)
  | .release store sender ownerId =>
    store = tracked.store ∧ sender = tracked.sender ∧ ownerId = tracked.lockOwnerId

/-- The submission of a tracked request succeeded and was recorded. -/
def Broadcasted (tracked : TrackedSend) (g : Progress) : Prop :=
  ∃ r now ordering, g.answer = some (.ok r) ∧ g.grant = some (now, ordering) ∧
    g.lastWrite = some (tracked.broadcast (replacementObservation tracked ordering) r)

/-- What holds at the end of the inner block of a tracked request. -/
structure Concluded (tracked : TrackedSend) (result : Except TransportError ResponsePacket)
    (g : Progress) : Prop where
  broadcasted : ∀ packet, result = .ok packet → Broadcasted tracked g
  refused : ∀ err, g.refusal = some err → result = .error err.toText

/-- What holds when a tracked request returns. -/
structure Final (tracked : TrackedSend) (result : Except TransportError ResponsePacket)
    (g : Progress) : Prop extends Concluded tracked result g where
  failed : ∀ errText, result = .error errText → g.lastWrite = some (tracked.failure errText)

variable {lib : Externals} {self : IgraTransport} {rawSend : RawSendRequest}
  {tracked : TrackedSend} {g : Progress}

theorem holds_acquire {J : Progress → TransportOp → Prop}
    {post : Except IgraStoreError NonceOrdering → Progress → Prop}
    (hstart : J g (.startAcquire tracked.store)) (hpoll : ∀ d, J g (.pollLock tracked d))
    (hok : ∀ now ordering, post (.ok ordering) { g with grant := some (now, ordering) })
    (htimeout : post (.error (.lockTimeout tracked.sender))
      { g with refusal := some (.lockTimeout tracked.sender) })
    (hgap : ∀ e, post (.error (.blockedNonceGap e tracked.l2Nonce))
      { g with refusal := some (.blockedNonceGap e tracked.l2Nonce) }) :
    Holds J post (acquire tracked) g := by
  refine holds_bind.mpr (holds_call hstart ?_)
  rintro _ ⟨start, rfl⟩
  refine holds_call (hpoll _) ?_
  rintro ⟨now, result⟩ hsucc
  simp only [Progress.after, Progress.polled, PollAnswer.exit]
  rcases result with err | _ | ordering
  · rcases hsucc err rfl with rfl | ⟨e, rfl⟩
    · exact htimeout
    · exact hgap e
  · rfl
  · exact hok now ordering

theorem holds_recordObservation {J : Progress → TransportOp → Prop}
    {observation : ReplacementObservation} {post : Unit → Progress → Prop}
    (hJ : ∀ u, u.l2TxHash = tracked.l2TxHash → J g (.persist tracked.store u))
    (h : ∀ w, post () { g with lastWrite := w }) :
    Holds J post (recordObservation tracked observation) g := by
  match observation with
  | none => exact h g.lastWrite
  | some (code, message) => exact holds_persist (hJ _ rfl) (h _)

theorem holds_recordSubmission {J : Progress → TransportOp → Prop} {inOrderSubmit : Bool}
    {observation : ReplacementObservation} {result : IgraSubmitResult}
    {post : Unit → Progress → Prop}
    (hpersist : ∀ w u, u.l2TxHash = tracked.l2TxHash →
      J { g with lastWrite := w } (.persist tracked.store u))
    (hmark : inOrderSubmit = true → ∀ w,
      J { g with lastWrite := w } (.markSubmitted tracked.store tracked.sender tracked.l2Nonce))
    (h : post () { g with lastWrite := some (tracked.broadcast observation result) }) :
    Holds J post (recordSubmission tracked inOrderSubmit observation result) g := by
  refine holds_bind.mpr (holds_persist (hpersist _ _ rfl) ?_)
  refine holds_bind.mpr (holds_persist (hpersist _ _ rfl) ?_)
  refine holds_bind.mpr (holds_persist (hpersist _ _ rfl) ?_)
  cases inOrderSubmit with
  | false => exact h
  | true => exact holds_bind.mpr (holds_call (hmark rfl _) fun _ _ => h)

/-- After the tail of a request has recorded a failure. -/
def Progress.concluded (g : Progress) (tracked : TrackedSend) :
    Except TransportError ResponsePacket → Progress
  | .ok _ => g
  | .error errText => { g with lastWrite := some (tracked.failure errText) }

@[simp] theorem Progress.concluded_grant (g : Progress)
    {result : Except TransportError ResponsePacket} :
    (g.concluded tracked result).grant = g.grant := by
  cases result <;> rfl

@[simp] theorem Progress.concluded_refusal (g : Progress)
    {result : Except TransportError ResponsePacket} :
    (g.concluded tracked result).refusal = g.refusal := by
  cases result <;> rfl

/-- The rule of the tail. -/
theorem holds_finish {J : Progress → TransportOp → Prop} {acquired : Bool}
    {result : Except TransportError ResponsePacket}
    {post : Except TransportError ResponsePacket → Progress → Prop}
    (hpersist : ∀ errText, result = .error errText →
      J g (.persist tracked.store (tracked.failure errText)))
    (hrelease : acquired = true → J (g.concluded tracked result)
      (.release tracked.store tracked.sender tracked.lockOwnerId))
    (h : post result { g.concluded tracked result with released := acquired || g.released }) :
    Holds J post (finish (some tracked) (acquired, result)) g := by
  have htail : Holds J (fun _ g => Holds J post (pure result) g)
      (if acquired = true then do
          let _ ← call (.release tracked.store tracked.sender tracked.lockOwnerId)
          pure ()
        else pure ()) (g.concluded tracked result) := by
    cases acquired with
    | false => cases result <;> exact h
    | true => exact holds_bind.mpr (holds_call (hrelease rfl) fun _ _ => h)
  refine holds_bind.mpr ?_
  cases result with
  | ok packet => exact htail
  | error errText => exact holds_bind.mpr (holds_persist (hpersist errText rfl) htail)

/-- A tracked request is its inner block and its tail. -/
theorem holds_request_of_tracked {J : Progress → TransportOp → Prop}
    {mid : Bool × Except TransportError ResponsePacket → Progress → Prop}
    {post : Except TransportError ResponsePacket → Progress → Prop} {stamp : RequestStamp}
    {packet : RequestPacket} (h : self.tracked lib stamp packet = some tracked)
    (hsend : ∀ rawSend, Holds J mid (sendRawTransaction lib self rawSend (some tracked)) g)
    (hfinish : ∀ outcome g, mid outcome g → Holds J post (finish (some tracked) outcome) g) :
    Holds J post (self.request lib stamp packet) g := by
  rw [IgraTransport.tracked] at h
  rw [IgraTransport.request]
  cases hroute : self.route lib packet with
  | forward packet => simp [hroute] at h
  | reject reason => simp [hroute] at h
  | send rawSend =>
    simp only [hroute] at h
    simp only [h]
    exact holds_bind.mpr (Program.wp_mono (fun _ _ h => h) hfinish _ _ (hsend rawSend))

/-- The part from the unsigned record on keeps the grant, and records a success. -/
theorem holds_submit {txIdPrefix : String} {inOrderSubmit : Bool} {now : UInt64}
    {ordering : NonceOrdering} (hgrant : g.grant = some (now, ordering))
    (hreleased : g.released = false) (hrefusal : g.refusal = none)
    (hinOrder : inOrderSubmit = true → ∃ e, ordering = .inOrder e) :
    Holds (Pending tracked) (fun result g' => Concluded tracked result g')
      (submit lib self rawSend txIdPrefix (some tracked) inOrderSubmit
        (replacementObservation tracked ordering)) g := by
  refine holds_bind.mpr (holds_persist ⟨rfl, rfl⟩ ?_)
  refine holds_bind.mpr (holds_call ⟨(now, ordering), hgrant⟩ fun _ _ => ?_)
  refine holds_bind.mpr (holds_call ⟨hreleased, (now, ordering), hgrant⟩ fun a _ => ?_)
  match a with
  | .error err =>
    refine ⟨nofun, fun err' hr => ?_⟩
    rw [show g.refusal = some err' from hr] at hrefusal
    cases hrefusal
  | .ok result =>
    have hin : inOrderSubmit = true → ∃ now' e, g.grant = some (now', .inOrder e) := fun h => by
      obtain ⟨e, rfl⟩ := hinOrder h
      exact ⟨now, e, hgrant⟩
    refine holds_bind.mpr (holds_recordSubmission (fun _ _ hu => ⟨rfl, hu⟩)
      (fun h _ => ⟨rfl, rfl, rfl, hin h, result, rfl⟩) ?_)
    refine ⟨fun _ _ => ⟨result, now, ordering, rfl, hgrant, rfl⟩, fun err' hr => ?_⟩
    rw [show g.refusal = some err' from hr] at hrefusal
    cases hrefusal

theorem holds_sendRawTransaction :
    Holds (Pending tracked) (fun outcome g' => Concluded tracked outcome.2 g')
      (sendRawTransaction lib self rawSend (some tracked)) .start := by
  rw [sendRawTransaction]
  cases self.txIdPrefix with
  | none => exact ⟨nofun, nofun⟩
  | some txIdPrefix =>
    refine holds_bind.mpr (holds_persist ⟨rfl, rfl⟩ ?_)
    refine holds_bind.mpr (holds_acquire rfl (fun _ => rfl) ?_ ?_ ?_)
    · rintro now ordering
      refine holds_bind.mpr (holds_recordObservation (fun _ hu => ⟨rfl, hu⟩) fun w => ?_)
      refine holds_bind.mpr (holds_submit rfl rfl rfl ?_)
      cases ordering with
      | inOrder e => exact fun _ => ⟨e, rfl⟩
      | stale e candidate => exact nofun
    · refine holds_bind.mpr (holds_persist ⟨rfl, rfl⟩ ⟨nofun, ?_⟩)
      rintro err ⟨⟩
      rfl
    · rintro e
      refine holds_bind.mpr (holds_persist ⟨rfl, rfl⟩ ⟨nofun, ?_⟩)
      rintro err ⟨⟩
      rfl

theorem final_of_concluded {result : Except TransportError ResponsePacket}
    (h : Concluded tracked result g) (released : Bool) :
    Final tracked result { g.concluded tracked result with released := released } := by
  cases result with
  | ok packet => exact ⟨⟨h.broadcasted, h.refused⟩, nofun⟩
  | error errText =>
    refine ⟨⟨nofun, h.refused⟩, ?_⟩
    rintro _ ⟨⟩
    rfl

theorem holds_request_tracked {stamp : RequestStamp} {packet : RequestPacket}
    (h : self.tracked lib stamp packet = some tracked) :
    Holds (Pending tracked) (Final tracked) (self.request lib stamp packet) .start :=
  holds_request_of_tracked h (fun _ => holds_sendRawTransaction) fun _ _ hconcluded =>
    holds_finish (fun _ _ => ⟨rfl, rfl⟩) (fun _ => ⟨rfl, rfl, rfl⟩)
      (final_of_concluded hconcluded _)

/-! ### Requests that are not tracked -/

/-- The calls that do not touch a store. -/
def LeavesStore (_ : Progress) : TransportOp → Prop
  | .innerCall _ => True
  | .enterSubmit _ => True
  | .leaveSubmit _ => True
  | _ => False

theorem holds_forward (packet : RequestPacket) :
    Holds LeavesStore (fun _ _ => True) (call (.innerCall packet)) g := by
  refine holds_call ?_ fun _ _ => trivial
  trivial

theorem holds_submit_untracked {txIdPrefix : String} :
    Holds LeavesStore (fun _ _ => True)
      (submit lib self rawSend txIdPrefix none false none) g := by
  rw [submit]
  refine holds_bind.mpr (holds_forTracked_none ?_)
  refine holds_bind.mpr (holds_call trivial fun _ _ => ?_)
  refine holds_bind.mpr (holds_call trivial fun a _ => ?_)
  match a with
  | .error err => trivial
  | .ok result => trivial

theorem holds_request_untracked {stamp : RequestStamp} {packet : RequestPacket}
    (h : self.tracked lib stamp packet = none) :
    Holds LeavesStore (fun _ _ => True) (self.request lib stamp packet) .start := by
  rw [IgraTransport.tracked] at h
  rw [IgraTransport.request]
  cases hroute : self.route lib packet with
  | forward packet => exact holds_forward packet
  | reject reason => exact holds_pure.mpr trivial
  | send rawSend =>
    simp only [hroute] at h
    simp only [h]
    refine holds_bind.mpr ?_
    rw [sendRawTransaction]
    cases self.txIdPrefix with
    | none => trivial
    | some txIdPrefix =>
      exact holds_bind.mpr (Program.wp_mono (fun _ _ h => h) (fun _ _ _ => trivial) _ _
        holds_submit_untracked)

/-- What holds at a call of a request. -/
def CallInvariant (tracked : Option TrackedSend) (g : Progress) (op : TransportOp) : Prop :=
  match tracked with
  | some tracked => Pending tracked g op
  | none => LeavesStore g op

/-- What holds when a request returns. -/
def ReturnInvariant (tracked : Option TrackedSend) (result : Except TransportError ResponsePacket)
    (g : Progress) : Prop :=
  ∀ t, tracked = some t → Final t result g

/-- **Requests.** Without store failures, every request meets its assertions at each of its calls
and when it returns. -/
theorem holds_request (stamp : RequestStamp) (packet : RequestPacket) :
    Holds (CallInvariant (self.tracked lib stamp packet))
      (ReturnInvariant (self.tracked lib stamp packet)) (self.request lib stamp packet) .start := by
  cases h : self.tracked lib stamp packet with
  | none =>
    exact Program.wp_mono (fun _ _ h => h) (fun _ _ _ => nofun) _ _ (holds_request_untracked h)
  | some tracked =>
    refine Program.wp_mono (fun _ _ h => h) (fun _ _ hf t ht => ?_) _ _ (holds_request_tracked h)
    obtain rfl := Option.some_inj.mp ht
    exact hf

end FoundryIgra
