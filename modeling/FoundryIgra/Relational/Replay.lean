import Mathlib.Data.List.Induction
import Mathlib.Tactic.Common

/-!
# Replaying a log of keyed events

A state that is changed by events, each of which concerns one key: it changes what is read under
its key, depending on what was read there before, and nothing else. What is read under a key after
a log of events is then the replay of the events of that key alone, in their order. When the value
after a non-empty log has a closed form, one step of the closed form is all that is to be proved.

## Main definitions

* `Relational.Keyed`: the law of an event.
* `Relational.eventsOf`: the events of a key.

## Main results

* `Keyed.read_foldl`: the value under a key is the replay of its events.
* `foldl_eq_summary`: a replay in closed form.
-/

namespace Relational

variable {σ ε κ ρ : Type} [DecidableEq κ]

/-- The events of the key `k`. -/
def eventsOf (key : ε → κ) (k : κ) (es : List ε) : List ε := es.filter fun e => key e = k

/-- An event changes the value under its own key to `next` of that value, and no other. -/
def Keyed (read : σ → κ → Option ρ) (apply : σ → ε → σ) (key : ε → κ)
    (next : Option ρ → ε → ρ) : Prop :=
  ∀ s e k, read (apply s e) k = if key e = k then some (next (read s k) e) else read s k

theorem eventsOf_eq_nil_iff {key : ε → κ} {k : κ} {es : List ε} :
    eventsOf key k es = [] ↔ ∀ e ∈ es, key e ≠ k := by
  simp [eventsOf, List.filter_eq_nil_iff]

/-- **Replay.** What is read under a key is the replay of its events. -/
theorem Keyed.read_foldl {read : σ → κ → Option ρ} {apply : σ → ε → σ} {key : ε → κ}
    {next : Option ρ → ε → ρ} (h : Keyed read apply key next) (s : σ) (es : List ε) (k : κ) :
    read (es.foldl apply s) k =
      (eventsOf key k es).foldl (fun r e => some (next r e)) (read s k) := by
  induction es generalizing s with
  | nil => rfl
  | cons e es ih =>
    rw [List.foldl_cons, ih, h, eventsOf, eventsOf]
    by_cases hk : key e = k
    · rw [if_pos hk, List.filter_cons_of_pos (by simpa using hk), List.foldl_cons]
    · rw [if_neg hk, List.filter_cons_of_neg (by simpa using hk)]

/-- **A replay in closed form.** -/
theorem foldl_eq_summary {next : Option ρ → ε → ρ} {summary : ε → List ε → ρ}
    (hfirst : ∀ e, next none e = summary e [])
    (hstep : ∀ first rest e, next (some (summary first rest)) e = summary first (rest ++ [e]))
    (first : ε) (rest : List ε) :
    (first :: rest).foldl (fun r e => some (next r e)) none = some (summary first rest) := by
  induction rest using List.reverseRecOn with
  | nil => exact congrArg some (hfirst first)
  | append_singleton rest e ih =>
    rw [← List.cons_append, List.foldl_append, ih, List.foldl_cons, hstep, List.foldl_nil]

end Relational
