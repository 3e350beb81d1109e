import FoundryIgra.Concurrency.Program

/-!
# Erasing calls

Some calls of a program may be *hidden*: whatever they are answered, the program makes the calls
that another program makes without them, and returns what that program returns. An answer may
instead *stop* the program, when no call that is kept has been made yet; from then on it makes
hidden calls only.

## Main definitions

* `Erasure`: which calls are hidden and which answers stop.
* `Program.Silent`: programs that make hidden calls only.
* `Program.Erases`: a program becomes another when the hidden calls are left out.

## Main results

* `Program.Erases.bind`, `Program.Erases.hidden_bind`: sequencing.
* `Program.Trace.erase`: a trace without the hidden calls is a trace of the other program.
-/

namespace Concurrency

/-- Calls that are hidden, and their outcomes that stop a program. -/
structure Erasure (I : Interface) (ε : Type) where
  hidden : I.Op → Bool
  stop : (o : I.Op) → I.Out o → Option ε
  stop_kept : ∀ o b, hidden o = false → stop o b = none

namespace Erasure

variable {I : Interface} {ε : Type} (E : Erasure I ε)

/-- The call of an event is kept. -/
def keeps (x : I.Event) : Bool := !E.hidden x.1

/-- The events whose call is kept. -/
def visible (es : List I.Event) : List I.Event := es.filter E.keeps

/-- An event stops the program with `e`. -/
def StopsWith (e : ε) (x : I.Event) : Prop :=
  ∃ b, I.exit x.1 x.2 = some b ∧ E.stop x.1 b = some e

variable {E}

theorem visible_cons_of_hidden {o : I.Op} (ho : E.hidden o = true) (a : I.Ans o)
    (es : List I.Event) : E.visible (⟨o, a⟩ :: es) = E.visible es :=
  List.filter_cons_of_neg (by simp [keeps, ho])

theorem visible_cons_of_kept {o : I.Op} (ho : E.hidden o = false) (a : I.Ans o)
    (es : List I.Event) : E.visible (⟨o, a⟩ :: es) = ⟨o, a⟩ :: E.visible es :=
  List.filter_cons_of_pos (by simp [keeps, ho])

/-- An answer on which a call polls does not stop. -/
theorem not_stopsWith_of_exit {o : I.Op} {a : I.Ans o} (h : I.exit o a = none) (e : ε) :
    ¬E.StopsWith e ⟨o, a⟩ := by
  rintro ⟨b, hb, -⟩
  rw [h] at hb
  cases hb

theorem stopsWith_iff {o : I.Op} {a : I.Ans o} {b : I.Out o} (h : I.exit o a = some b) {e : ε} :
    E.StopsWith e ⟨o, a⟩ ↔ E.stop o b = some e := by
  refine ⟨?_, fun he => ⟨b, h, he⟩⟩
  rintro ⟨b', hb', he⟩
  obtain rfl := Option.some.inj (h.symm.trans hb')
  exact he

/-- A call that is kept does not stop. -/
theorem not_stopsWith_of_kept {o : I.Op} (ho : E.hidden o = false) (a : I.Ans o) (e : ε) :
    ¬E.StopsWith e ⟨o, a⟩ := by
  rintro ⟨b, -, he⟩
  rw [E.stop_kept o b ho] at he
  cases he

end Erasure

namespace Program

variable {I : Interface} {ε α α' β β' : Type} {E : Erasure I ε}

/-- The program makes hidden calls only, none of which stops it, and `post` holds of what it
returns. -/
inductive Silent (E : Erasure I ε) (post : α → Prop) : Program I α → Prop
  | done {a : α} (h : post a) : Silent E post (done a)
  | call {o : I.Op} {k : I.Out o → Program I α} (ho : E.hidden o = true)
      (hstop : ∀ b, E.stop o b = none) (hk : ∀ b, Silent E post (k b)) : Silent E post (call o k)

/-- Without its hidden calls the first program is the second, with results that are related by
`R`, unless it is stopped: then it is silent and `post` holds. It can be stopped while it is
`fresh`, that is, before its first call that is kept. -/
inductive Erases (E : Erasure I ε) (post : ε → α → Prop) (R : α → β → Prop) :
    Bool → Program I α → Program I β → Prop
  | done {fresh : Bool} {a : α} {b : β} (h : R a b) : Erases E post R fresh (done a) (done b)
  | hide {fresh : Bool} {o : I.Op} {k : I.Out o → Program I α} {q : Program I β}
      (ho : E.hidden o = true) (hk : ∀ b, E.stop o b = none → Erases E post R fresh (k b) q)
      (hstop : ∀ b e, E.stop o b = some e → fresh = true ∧ Silent E (post e) (k b)) :
      Erases E post R fresh (call o k) q
  | keep {fresh : Bool} {o : I.Op} {k : I.Out o → Program I α} {k' : I.Out o → Program I β}
      (ho : E.hidden o = false) (hk : ∀ b, Erases E post R false (k b) (k' b)) :
      Erases E post R fresh (call o k) (call o k')

section Rules

variable {post : ε → α → Prop} {R : α → β → Prop} {fresh : Bool}

/-- Silent programs are sequenced. -/
theorem Silent.bind {post : α → Prop} {post' : α' → Prop} {p : Program I α}
    {f : α → Program I α'} (hp : Silent E post p) (hf : ∀ a, post a → Silent E post' (f a)) :
    Silent E post' (p >>= f) := by
  induction hp with
  | done h => exact hf _ h
  | call ho hstop _ ih => exact .call ho hstop ih

theorem Silent.mono {post post' : α → Prop} {p : Program I α} (hp : Silent E post p)
    (h : ∀ a, post a → post' a) : Silent E post' p := by
  induction hp with
  | done ha => exact .done (h _ ha)
  | call ho hstop _ ih => exact .call ho hstop ih

/-- A silent program is left out. -/
theorem Silent.erases {post₁ : α → Prop} {p : Program I α} {b : β} (hp : Silent E post₁ p)
    (h : ∀ a, post₁ a → R a b) : Erases E post R fresh p (Program.done b) := by
  induction hp with
  | done ha => exact .done (h _ ha)
  | call ho hstop _ ih =>
    refine .hide ho (fun b _ => ih b) fun b e he => ?_
    rw [hstop b] at he
    cases he

/-- A silent program before another is left out. -/
theorem Erases.hidden_bind {post₁ : α' → Prop} {p : Program I α'} {f : α' → Program I α}
    {q : Program I β} (hp : Silent E post₁ p) (hf : ∀ a, post₁ a → Erases E post R fresh (f a) q) :
    Erases E post R fresh (p >>= f) q := by
  induction hp with
  | done h => exact hf _ h
  | call ho hstop _ ih =>
    refine .hide ho (fun b _ => ih b) fun b e he => ?_
    rw [hstop b] at he
    cases he

/-- **Sequencing.** -/
theorem Erases.bind {post' : ε → α' → Prop} {R' : α' → β' → Prop} {p : Program I α}
    {q : Program I β} {f : α → Program I α'} {g : β → Program I β'}
    (h : Erases E post R fresh p q)
    (hfg : ∀ fresh a b, R a b → Erases E post' R' fresh (f a) (g b))
    (hf : ∀ e a, post e a → Silent E (post' e) (f a)) :
    Erases E post' R' fresh (p >>= f) (q >>= g) := by
  induction h with
  | done h => exact hfg _ _ _ h
  | hide ho _ hstop ih =>
    refine .hide ho ih fun b e he => ?_
    obtain ⟨hfresh, hsilent⟩ := hstop b e he
    exact ⟨hfresh, hsilent.bind (hf e)⟩
  | keep ho _ ih => exact .keep ho ih

end Rules

/-! ### Traces -/

section Traces

variable {post : ε → α → Prop} {R : α → β → Prop} {fresh : Bool} {p p' : Program I α}
  {q : Program I β} {es : List I.Event}

/-- One answered call of a silent program. -/
theorem Silent.resume {post : α → Prop} {o : I.Op} {k : I.Out o → Program I α}
    (h : Silent E post (Program.call o k)) (a : I.Ans o) :
    Silent E post (Program.resume o k a) ∧ E.hidden o = true ∧ ∀ e, ¬E.StopsWith e ⟨o, a⟩ := by
  cases h with
  | call ho hstop hk =>
    refine ⟨?_, ho, fun e ⟨b, _, he⟩ => ?_⟩
    · rw [Program.resume]
      cases I.exit o a with
      | none => exact .call ho hstop hk
      | some b => exact hk b
    · rw [hstop b] at he
      cases he

/-- What one answered call of an erased program is: a hidden call that is left out, a hidden call
that stops it, or a call that the other program makes as well. -/
theorem Erases.resume_cases {o : I.Op} {k : I.Out o → Program I α}
    (h : Erases E post R fresh (Program.call o k) q) (a : I.Ans o) :
    (E.hidden o = true ∧ (∀ e, ¬E.StopsWith e ⟨o, a⟩) ∧
      Erases E post R fresh (Program.resume o k a) q) ∨
    (E.hidden o = true ∧ fresh = true ∧ ∃ e, (∀ e', E.StopsWith e' ⟨o, a⟩ ↔ e' = e) ∧
      Silent E (post e) (Program.resume o k a)) ∨
    (E.hidden o = false ∧ (∀ e, ¬E.StopsWith e ⟨o, a⟩) ∧ ∃ k', q = Program.call o k' ∧
      Erases E post R false (Program.resume o k a) (Program.resume o k' a)) := by
  cases h with
  | hide ho hk hstop =>
    cases hx : I.exit o a with
    | none =>
      refine Or.inl ⟨ho, Erasure.not_stopsWith_of_exit hx, ?_⟩
      rw [Program.resume, hx]
      exact .hide ho hk hstop
    | some b =>
      have hresume : Program.resume o k a = k b := by rw [Program.resume, hx]
      rw [hresume]
      cases he : E.stop o b with
      | none =>
        refine Or.inl ⟨ho, fun e hstops => ?_, hk b he⟩
        rw [Erasure.stopsWith_iff hx, he] at hstops
        cases hstops
      | some e =>
        obtain ⟨hfresh, hsilent⟩ := hstop b e he
        refine Or.inr (Or.inl ⟨ho, hfresh, e, fun e' => ?_, hsilent⟩)
        rw [Erasure.stopsWith_iff hx, he, Option.some_inj, eq_comm]
  | @keep _ _ _ k' ho hk =>
    refine Or.inr (Or.inr ⟨ho, Erasure.not_stopsWith_of_kept ho a, k', rfl, ?_⟩)
    rw [Program.resume, Program.resume]
    cases I.exit o a with
    | none => exact .keep ho hk
    | some b => exact hk b

/-- What is known of an erased program after some events: it has not been stopped and the other
program has gone the same way, or it was stopped before any call that is kept. -/
inductive Erased (E : Erasure I ε) (post : ε → α → Prop) (R : α → β → Prop) (q : Program I β)
    (es : List I.Event) (p' : Program I α) : Prop
  | goes (fresh : Bool) (q' : Program I β) (trace : Trace q (E.visible es) q')
      (erases : Erases E post R fresh p' q') (none_of_fresh : fresh = true → E.visible es = [])
      (goes : ∀ x ∈ es, ∀ e, ¬E.StopsWith e x)
  | stopped (e : ε) (silent : Silent E (post e) p') (none : E.visible es = [])
      (stops : ∃ x ∈ es, E.StopsWith e x) (eq : ∀ x ∈ es, ∀ e', E.StopsWith e' x → e' = e)

/-- One answered call of an erased program. -/
theorem Erased.snoc {o : I.Op} {k : I.Out o → Program I α}
    (h : Erased E post R q es (call o k)) (a : I.Ans o) :
    Erased E post R q (⟨o, a⟩ :: es) (resume o k a) := by
  cases h with
  | stopped e hsilent hnone hstops heq =>
    obtain ⟨hresume, ho, hgoes⟩ := hsilent.resume a
    obtain ⟨x, hx, hxe⟩ := hstops
    refine .stopped e hresume ?_ ⟨x, List.mem_cons_of_mem _ hx, hxe⟩
      (List.forall_mem_cons.mpr ⟨fun e' he' => absurd he' (hgoes e'), heq⟩)
    rwa [Erasure.visible_cons_of_hidden ho]
  | goes fresh q' htrace herases hfresh hgoes =>
    rcases herases.resume_cases a with
      ⟨ho, hnew, hnext⟩ | ⟨ho, rfl, e, hstops, hsilent⟩ | ⟨ho, hnew, k', rfl, hnext⟩
    · have hvisible := Erasure.visible_cons_of_hidden ho a es
      exact .goes fresh q' (hvisible ▸ htrace) hnext (hvisible ▸ hfresh)
        (List.forall_mem_cons.mpr ⟨hnew, hgoes⟩)
    · have hvisible := Erasure.visible_cons_of_hidden ho a es
      refine .stopped e hsilent (hvisible.trans (hfresh rfl))
        ⟨⟨o, a⟩, List.mem_cons_self, (hstops e).mpr rfl⟩ ?_
      exact List.forall_mem_cons.mpr
        ⟨fun e' => (hstops e').mp, fun x hx e' he' => absurd he' (hgoes x hx e')⟩
    · have hvisible := Erasure.visible_cons_of_kept ho a es
      exact .goes false _ (hvisible ▸ htrace.snoc a) hnext (fun h => by cases h)
        (List.forall_mem_cons.mpr ⟨hnew, hgoes⟩)

/-- **Erasing a trace.** -/
theorem Trace.erase (ht : Trace p es p') (h : Erases E post R true p q) :
    Erased E post R q es p' := by
  induction ht with
  | nil => exact .goes true q .nil h (fun _ => rfl) fun x hx => by cases hx
  | snoc _ a ih => exact ih.snoc a

/-- An erased program that has returned. -/
theorem Erases.status_inr {a : α} (h : Erases E post R fresh p q) (ha : p.status = .inr a) :
    ∃ b, q.status = .inr b ∧ R a b := by
  cases h with
  | done h =>
    obtain rfl := Sum.inr.inj ha
    exact ⟨_, rfl, h⟩
  | hide _ _ _ => cases ha
  | keep _ _ => cases ha

/-- A silent program that has returned. -/
theorem Silent.status_inr {post : α → Prop} {a : α} (h : Silent E post p)
    (ha : p.status = .inr a) : post a := by
  cases h with
  | done h =>
    obtain rfl := Sum.inr.inj ha
    exact h
  | call _ _ _ => cases ha

end Traces

end Program

end Concurrency
