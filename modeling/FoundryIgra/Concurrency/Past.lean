import FoundryIgra.Concurrency.Pool
import Mathlib.Order.Monotone.Basic

/-!
# Assertions on the past

What a program does at a call may depend on what it has done. An assertion on calls speaks of the
events that the program has concluded before; a program *asserts* it when it holds at every call
that the program makes, whatever is answered. Events are never forgotten, so what is known of them
after one part of a program is known after every later part.

## Main definitions

* `Assertion`: an assertion on calls, by the events before.
* `Asserts`: the program meets the assertion at its calls.

## Main results

* `asserts_call`, `Asserts.bind`: the rules of calls and of sequences.
* `Reachable.asserted`: in every run of a pool the assertion holds at the pending calls.
-/

namespace Concurrency

variable {I : Interface} {α β : Type}

/-- An assertion on the calls of a program, by the events that it has made. -/
abbrev Assertion (I : Interface) : Type := (I.Event → Prop) → I.Op → Prop

/-- The concluded events, after one more event. -/
def Interface.conclude (I : Interface) (es : List I.Event) (e : I.Event) : List I.Event :=
  if (I.exit e.1 e.2).isSome then e :: es else es

/-- The assertion after the events `es`. -/
def Assertion.after (A : Assertion I) (es : List I.Event) : I.Op → Prop := A (· ∈ es)

/-- After the events `es` the program meets the assertion at its calls, and `post` when it has
returned. -/
structure Asserts (A : Assertion I) (post : α → List I.Event → Prop) (p : Program I α)
    (es : List I.Event) : Prop where
  wp : Program.wp (fun _ => True) I.conclude A.after post p es

theorem subset_conclude (es : List I.Event) (e : I.Event) : es ⊆ I.conclude es e := by
  rw [Interface.conclude]
  split_ifs
  · exact List.subset_cons_self ..
  · exact List.Subset.refl es

/-! ### Rules -/

section Rules

variable {A : Assertion I} {post : α → List I.Event → Prop} {post' : β → List I.Event → Prop}
  {es : List I.Event}

theorem asserts_pure {a : α} (h : post a es) : Asserts A post (pure a : Program I α) es := ⟨h⟩

/-- The rule of a call. -/
theorem asserts_call {o : I.Op} {f : I.Out o → Program I β} (ho : A (· ∈ es) o)
    (h : ∀ a b, I.exit o a = some b → Asserts A post' (f b) (⟨o, a⟩ :: es)) :
    Asserts A post' (Program.perform o >>= f) es := by
  refine ⟨ho, fun a _ => ?_⟩
  cases hx : I.exit o a with
  | none => exact if_neg (by simp [hx])
  | some b =>
    have hconclude : I.conclude es ⟨o, a⟩ = ⟨o, a⟩ :: es := if_pos (by simp [hx])
    rw [hconclude]
    exact (h a b hx).wp

/-- The rule of a single call. -/
theorem asserts_perform (o : I.Op) {post : I.Out o → List I.Event → Prop} (ho : A (· ∈ es) o)
    (h : ∀ a b, I.exit o a = some b → post b (⟨o, a⟩ :: es)) :
    Asserts A post (Program.perform o) es :=
  asserts_call (f := Program.done) ho fun a b hx => ⟨h a b hx⟩

/-- Nothing is forgotten. -/
theorem wp_past {p : Program I α} {es₀ : List I.Event} (hsub : es₀ ⊆ es)
    (h : Program.wp (fun _ => True) I.conclude A.after post p es) :
    Program.wp (fun _ => True) I.conclude A.after (fun a es => es₀ ⊆ es ∧ post a es) p es := by
  induction p generalizing es with
  | done a => exact ⟨hsub, h⟩
  | call o k ih =>
    obtain ⟨ho, hk⟩ := (Program.wp_call ..).mp h
    refine (Program.wp_call ..).mpr ⟨ho, fun a ha => ?_⟩
    have hanswer := hk a ha
    cases hx : I.exit o a with
    | none => simpa only [hx] using hanswer
    | some b =>
      simp only [hx] at hanswer
      exact ih b (List.Subset.trans hsub (subset_conclude ..)) hanswer

/-- The rule of a sequence: the second part starts with all that was made before. -/
theorem Asserts.bind {p : Program I α} {f : α → Program I β} (hp : Asserts A post p es)
    (hf : ∀ a es', es ⊆ es' → post a es' → Asserts A post' (f a) es') :
    Asserts A post' (p >>= f) es :=
  ⟨(Program.wp_bind ..).mpr (Program.wp_mono (fun _ _ ho => ho)
    (fun a es' h => (hf a es' h.1 h.2).wp) p es (wp_past (List.Subset.refl es) hp.wp))⟩

end Rules

/-! ### Runs -/

section Runs

variable {W : Type} {M : Machine I W} {progs : ℕ → Program I α} {w : W} {c : Conf I W α} {i : ℕ}

theorem Conf.ghost_conclude_subset (c : Conf I W α) (i : ℕ) :
    c.ghost I.conclude [] i ⊆ c.own i := by
  rw [Conf.ghost]
  induction c.own i with
  | nil => exact List.Subset.refl []
  | cons e es ih =>
    rw [List.foldr_cons, Interface.conclude]
    split_ifs
    · exact List.cons_subset_cons e ih
    · exact List.subset_cons_of_subset e ih

/-- **In every run** the assertion holds at the pending call of a thread whose program meets it. -/
theorem Reachable.asserted {A : Assertion I} {post : α → List I.Event → Prop} (hA : Monotone A)
    (h : Reachable M progs w c) (hp : Asserts A post (progs i) []) {o : I.Op}
    (ho : (c.thread i).status = .inl o) : A (· ∈ c.own i) o :=
  hA (fun _ he => c.ghost_conclude_subset i he) o
    (Reachable.pending h (fun _ _ _ _ _ _ _ => trivial) hp.wp ho)

end Runs

end Concurrency
