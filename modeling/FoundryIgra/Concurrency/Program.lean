import Mathlib.Tactic.Common

/-!
# Programs over an interface of calls

A program performs calls of an interface and continues with their answers. A call may *poll*:
on an answer for which `Interface.exit` is `none` the program issues the same call again, so an
unbounded retry loop is a single call. The answers are chosen by the environment; a *trace* of a
program is a list of calls with answers, the most recent first, together with the program that
remains.

Facts about all traces of a program are proved with `Program.wp`, a weakest precondition over a
ghost value that is folded along the trace: `J` holds of the ghost value whenever a call is
pending, and `post` when the program has returned.

## Main definitions

* `Interface`, `Interface.Event`, `Program`, and the monad structure of programs.
* `Program.Trace`: the traces of a program.
* `Program.wp`: the weakest precondition of a program.

## Main results

* `Program.wp_bind`: sequencing.
* `Program.Trace.wp`: along every trace of allowed answers the weakest precondition of the
  remaining program holds of the folded ghost value.
-/

namespace Concurrency

/-- Calls, their raw answers, and the outcome on which a call stops polling. -/
structure Interface where
  /-- The calls. -/
  Op : Type
  /-- The raw answer of one attempt. -/
  Ans : Op → Type
  /-- What the program continues with. -/
  Out : Op → Type
  /-- The outcome of an answer; `none` when the call is attempted again. -/
  exit : (o : Op) → Ans o → Option (Out o)

/-- One attempted call with its answer. -/
def Interface.Event (I : Interface) : Type := (o : I.Op) × I.Ans o

/-- A program that performs calls of `I` and returns an `α`. -/
inductive Program (I : Interface) (α : Type) : Type
  | done (a : α)
  | call (o : I.Op) (k : I.Out o → Program I α)

namespace Program

variable {I : Interface} {α β γ G : Type}

/-- Sequencing. -/
def bind : Program I α → (α → Program I β) → Program I β
  | done a, f => f a
  | call o k, f => call o fun b => (k b).bind f

instance : Monad (Program I) where
  pure := done
  bind := bind

/-- A single call. -/
def perform (o : I.Op) : Program I (I.Out o) := call o done

@[simp] theorem call_bind (o : I.Op) (k : I.Out o → Program I α) (f : α → Program I β) :
    call o k >>= f = call o fun b => k b >>= f := rfl

/-- The pending call of a program, or its result. -/
def status : Program I α → I.Op ⊕ α
  | done a => .inr a
  | call o _ => .inl o

@[simp] theorem status_done (a : α) : (done a : Program I α).status = .inr a := rfl

@[simp] theorem status_call (o : I.Op) (k : I.Out o → Program I α) :
    (call o k).status = .inl o := rfl

/-- The program after the pending call `o` was answered by `a`. -/
def resume (o : I.Op) (k : I.Out o → Program I α) (a : I.Ans o) : Program I α :=
  match I.exit o a with
  | none => call o k
  | some b => k b

/-! ### Traces -/

/-- `Trace p es q`: performing the events `es`, the most recent first, leaves `q` of `p`. -/
inductive Trace (p : Program I α) : List I.Event → Program I α → Prop
  | nil : Trace p [] p
  | snoc {es : List I.Event} {o : I.Op} {k : I.Out o → Program I α} (h : Trace p es (call o k))
      (a : I.Ans o) : Trace p (⟨o, a⟩ :: es) (resume o k a)

/-- A program that has returned makes no call. -/
theorem Trace.of_done {a : α} {es : List I.Event} {q : Program I α} (h : Trace (done a) es q) :
    es = [] ∧ q = done a := by
  induction h with
  | nil => exact ⟨rfl, rfl⟩
  | snoc _ _ ih => cases ih.2

/-- Every event of a trace was the pending call of what remained before it. -/
theorem Trace.exists_pending {p q : Program I α} {es : List I.Event} (h : Trace p es q)
    {e : I.Event} (he : e ∈ es) :
    ∃ es' k, Trace p es' (call e.1 k) := by
  induction h with
  | nil => cases he
  | @snoc es o k h a ih =>
    rcases List.mem_cons.mp he with rfl | he
    · exact ⟨es, k, h⟩
    · exact ih he

theorem resume_bind (o : I.Op) (k : I.Out o → Program I α) (f : α → Program I β) (a : I.Ans o) :
    resume o k a >>= f = resume o (fun b => k b >>= f) a := by
  rw [resume, resume]
  cases I.exit o a <;> rfl

/-- A trace of a sequence is within its first program, or has passed on to the second. -/
theorem Trace.bind_cases {p : Program I α} {f : α → Program I β} {q : Program I β}
    {es : List I.Event} (h : Trace (p >>= f) es q) :
    (∃ p', Trace p es p' ∧ q = p' >>= f) ∨
      ∃ a es₁ es₂, es = es₂ ++ es₁ ∧ Trace p es₁ (done a) ∧ Trace (f a) es₂ q := by
  induction h with
  | nil => exact Or.inl ⟨p, .nil, rfl⟩
  | @snoc es o k _ a ih =>
    rcases ih with ⟨p', hp', hq⟩ | ⟨b, es₁, es₂, rfl, h₁, h₂⟩
    · cases p' with
      | done b =>
        have hnil : Trace (f b) [] (call o k) := by
          rw [hq]
          exact .nil
        exact Or.inr ⟨b, es, [⟨o, a⟩], rfl, hp', hnil.snoc a⟩
      | call o' k' =>
        obtain ⟨rfl, rfl⟩ := call.inj hq
        exact Or.inl ⟨_, hp'.snoc a, (resume_bind ..).symm⟩
    · exact Or.inr ⟨b, es₁, ⟨o, a⟩ :: es₂, rfl, h₁, h₂.snoc a⟩

/-- A sequence that has returned: its parts have. -/
theorem Trace.bind_done {p : Program I α} {f : α → Program I β} {b : β} {es : List I.Event}
    (h : Trace (p >>= f) es (done b)) :
    ∃ a es₁ es₂, es = es₂ ++ es₁ ∧ Trace p es₁ (done a) ∧ Trace (f a) es₂ (done b) := by
  rcases h.bind_cases with ⟨p', hp', hq⟩ | hright
  · cases p' with
    | done a =>
      have hf : f a = done b := hq.symm
      exact ⟨a, es, [], rfl, hp', hf ▸ .nil⟩
    | call o k => cases hq
  · exact hright

/-- A call that has returned was answered with what it returned. -/
theorem Trace.perform_done {o : I.Op} {b : I.Out o} {es : List I.Event}
    (h : Trace (perform o) es (done b)) : ∃ a, I.exit o a = some b ∧ ⟨o, a⟩ ∈ es := by
  have key : ∀ es q, Trace (perform o) es q → q = perform o ∨
      ∃ a b, I.exit o a = some b ∧ ⟨o, a⟩ ∈ es ∧ q = done b := fun es q hq => by
    induction hq with
    | nil => exact Or.inl rfl
    | @snoc es o' k h' a ih =>
      rcases ih with heq | ⟨_, _, -, -, heq⟩
      · obtain ⟨rfl, rfl⟩ := call.inj heq
        rw [resume]
        cases hx : I.exit o' a with
        | none => exact Or.inl rfl
        | some b => exact Or.inr ⟨a, b, hx, List.mem_cons_self, rfl⟩
      · cases heq
  rcases key es _ h with heq | ⟨a, b', hx, ha, heq⟩
  · cases heq
  · obtain rfl := done.inj heq
    exact ⟨a, hx, ha⟩

/-! ### Weakest preconditions -/

section WeakestPrecondition

variable (allows : I.Event → Prop) (step : G → I.Event → G) (J : G → I.Op → Prop)

/-- On every trace of allowed answers from ghost value `g`: `J` holds at each pending call, and
`post` when the program returns. An answer on which a call polls again must not move the ghost
value. -/
def wp (post : α → G → Prop) : Program I α → G → Prop
  | done a, g => post a g
  | call o k, g => J g o ∧ ∀ a : I.Ans o, allows ⟨o, a⟩ →
      match I.exit o a with
      | none => step g ⟨o, a⟩ = g
      | some b => wp post (k b) (step g ⟨o, a⟩)

variable {allows step J}

theorem wp_call (post : α → G → Prop) (o : I.Op) (k : I.Out o → Program I α) (g : G) :
    wp allows step J post (call o k) g ↔ J g o ∧ ∀ a : I.Ans o, allows ⟨o, a⟩ →
      match I.exit o a with
      | none => step g ⟨o, a⟩ = g
      | some b => wp allows step J post (k b) (step g ⟨o, a⟩) := Iff.rfl

theorem wp_bind (post : β → G → Prop) (p : Program I α) (f : α → Program I β) (g : G) :
    wp allows step J post (p >>= f) g ↔
      wp allows step J (fun a g => wp allows step J post (f a) g) p g := by
  induction p generalizing g with
  | done a => rfl
  | call o k ih =>
    rw [call_bind, wp_call, wp_call]
    refine and_congr_right fun _ => forall_congr' fun a => imp_congr_right fun _ => ?_
    cases I.exit o a with
    | none => rfl
    | some b => exact ih b _

theorem wp_mono {J' : G → I.Op → Prop} {post post' : α → G → Prop}
    (hJ : ∀ g o, J g o → J' g o) (hpost : ∀ a g, post a g → post' a g) (p : Program I α) (g : G)
    (h : wp allows step J post p g) : wp allows step J' post' p g := by
  induction p generalizing g with
  | done a => exact hpost a g h
  | call o k ih =>
    obtain ⟨ho, hk⟩ := (wp_call ..).mp h
    refine (wp_call ..).mpr ⟨hJ g o ho, fun a ha => ?_⟩
    have := hk a ha
    cases hx : I.exit o a with
    | none => simpa only [hx] using this
    | some b => exact ih b _ (by simpa only [hx] using this)

/-- One answered call keeps the weakest precondition. -/
theorem wp_resume {post : α → G → Prop} {o : I.Op} {k : I.Out o → Program I α} {g : G}
    (h : wp allows step J post (call o k) g) {a : I.Ans o} (ha : allows ⟨o, a⟩) :
    wp allows step J post (resume o k a) (step g ⟨o, a⟩) := by
  have hk := ((wp_call ..).mp h).2 a ha
  rw [resume]
  cases hx : I.exit o a with
  | none =>
    rw [hx] at hk
    simpa only [hk] using h
  | some b => simpa only [hx] using hk

/-- **Soundness.** The weakest precondition holds of what remains after any allowed trace, at
the ghost value folded along the trace. -/
theorem Trace.wp {post : α → G → Prop} {p q : Program I α} {es : List I.Event} {g : G}
    (h : Program.wp allows step J post p g) (ht : Trace p es q) (hes : ∀ e ∈ es, allows e) :
    Program.wp allows step J post q (es.foldr (fun e g => step g e) g) := by
  induction ht with
  | nil => exact h
  | snoc _ a ih =>
    exact wp_resume (ih fun e he => hes e (List.mem_cons_of_mem _ he))
      (hes _ List.mem_cons_self)

/-- What `wp` says about the pending call or the result of a program. -/
theorem wp_status {post : α → G → Prop} {p : Program I α} {g : G}
    (h : Program.wp allows step J post p g) :
    (∀ o, p.status = .inl o → J g o) ∧ ∀ a, p.status = .inr a → post a g := by
  cases p with
  | done a =>
    refine ⟨fun o ho => by simp at ho, fun b hb => ?_⟩
    obtain rfl : a = b := Sum.inr.inj hb
    exact h
  | call o k =>
    refine ⟨fun o' ho => ?_, fun b hb => by simp at hb⟩
    obtain rfl : o = o' := Sum.inl.inj ho
    exact h.1

end WeakestPrecondition

end Program

end Concurrency
