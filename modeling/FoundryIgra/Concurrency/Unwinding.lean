import FoundryIgra.Concurrency.Pool

/-!
# Noninterference by unwinding

Some threads of a pool may not depend on the others. The unwinding conditions speak of one move at a
time: related worlds answer a call of a chosen thread alike and stay related, and a call of any
other thread leaves its world related to a world in which it was not made. Then every run has a run
without the moves of the other threads in which the chosen threads do exactly the same.

## Main definitions

* `Unwinding`: the conditions on one move.
* `Conf.Restricts`: a configuration is another one without the other threads.

## Main results

* `Unwinding.exists_restricted`: every run restricts to a run of the chosen threads.
-/

namespace Concurrency

variable {I : Interface} {W α : Type}

/-- The conditions on single moves under which the threads in `chosen` do not depend on the others:
`R` relates a world to one without them, and `calls i` holds of the calls that thread `i` makes. -/
structure Unwinding (M : Machine I W) (chosen : ℕ → Prop) (calls : ℕ → I.Op → Prop)
    (R : W → W → Prop) : Prop where
  tick : ∀ t v v₁ w, R v w → M.tick t v = some v₁ → ∃ w₁, M.tick t w = some w₁ ∧ R v₁ w₁
  own : ∀ r i o a v v₁ w, chosen i → calls i o → R v w → M.answer r i v o = some (a, v₁) →
    ∃ w₁, M.answer r i w o = some (a, w₁) ∧ R v₁ w₁
  other : ∀ r i o a v v₁ w, ¬chosen i → calls i o → R v w → M.answer r i v o = some (a, v₁) →
    R v₁ w

/-- `d` is `c` without the threads outside `chosen`: these have not moved, and the chosen ones have
made the same calls, in the same order and with the same answers. -/
structure Conf.Restricts (chosen : ℕ → Prop) [DecidablePred chosen] (progs : ℕ → Program I α)
    (c d : Conf I W α) : Prop where
  thread : ∀ i, d.thread i = if chosen i then c.thread i else progs i
  history : d.history.map (fun x => (x.tid, x.event)) =
    (c.history.filter fun x => chosen x.tid).map fun x => (x.tid, x.event)

variable {M : Machine I W} {chosen : ℕ → Prop} [DecidablePred chosen] {calls : ℕ → I.Op → Prop}
  {R : W → W → Prop} {progs : ℕ → Program I α} {v w : W} {c d : Conf I W α}

/-- The chosen threads have the same events. -/
theorem Conf.Restricts.own_eq (h : c.Restricts chosen progs d) {i : ℕ} (hi : chosen i) :
    d.own i = c.own i := by
  have hown : ∀ c : Conf I W α, c.own i = ((c.history.map fun x => (x.tid, x.event)).filter
      fun p => p.1 = i).map Prod.snd := fun c => by
    rw [Conf.own, List.filter_map, List.map_map]
    rfl
  rw [hown, hown, h.history, List.filter_map, List.filter_map, List.filter_filter]
  congr 2
  refine List.filter_congr fun x _ => ?_
  by_cases hx : x.tid = i
  · simp [hx, hi]
  · simp [hx]

/-- Only chosen threads have moved. -/
theorem Conf.Restricts.chosen_of_mem (h : c.Restricts chosen progs d) {x : Entry I W}
    (hx : x ∈ d.history) : chosen x.tid := by
  have hmem : (x.tid, x.event) ∈
      (c.history.filter fun x => chosen x.tid).map fun x => (x.tid, x.event) := by
    rw [← h.history]
    exact List.mem_map_of_mem hx
  obtain ⟨y, hy, heq⟩ := List.mem_map.mp hmem
  rw [← (Prod.mk.inj heq).1]
  exact of_decide_eq_true (List.mem_filter.mp hy).2

/-- A call of a chosen thread is made in both. -/
theorem Conf.Restricts.attempt (h : c.Restricts chosen progs d) {i : ℕ} (hi : chosen i) (o : I.Op)
    (k : I.Out o → Program I α) (a : I.Ans o) (v w : W) :
    (c.attempt i o k a v).Restricts chosen progs (d.attempt i o k a w) := by
  refine ⟨fun j => ?_, ?_⟩
  · rw [Conf.thread_attempt, Conf.thread_attempt, h.thread j]
    by_cases hj : j = i
    · rw [if_pos hj, if_pos hj, if_pos (hj ▸ hi)]
    · rw [if_neg hj, if_neg hj]
  · simp [Conf.attempt, h.history, hi]

/-- A call of another thread is made only in the one. -/
theorem Conf.Restricts.attempt_other (h : c.Restricts chosen progs d) {i : ℕ} (hi : ¬chosen i)
    (o : I.Op) (k : I.Out o → Program I α) (a : I.Ans o) (v : W) :
    (c.attempt i o k a v).Restricts chosen progs d := by
  refine ⟨fun j => ?_, ?_⟩
  · rw [Conf.thread_attempt, h.thread j]
    by_cases hj : j = i
    · rw [if_neg (hj ▸ hi), if_neg (hj ▸ hi)]
    · rw [if_neg hj]
  · rw [h.history, Conf.attempt]
    simp [hi]

/-- **Noninterference.** Under the unwinding conditions every run restricts to a run of the chosen
threads alone, from any related world. -/
theorem Unwinding.exists_restricted (hU : Unwinding M chosen calls R)
    (hcalls : ∀ i es o k, Program.Trace (progs i) es (.call o k) → calls i o) (hR : R v w)
    (h : Reachable M progs v c) :
    ∃ d, Reachable M progs w d ∧ R c.world d.world ∧ c.Restricts chosen progs d := by
  refine h.invariant (P := fun c => ∃ d, Reachable M progs w d ∧ R c.world d.world ∧
    c.Restricts chosen progs d)
    ⟨Conf.start progs w, Leads.refl _, hR, fun i => (ite_self _).symm, rfl⟩
    fun c c' m hc ih hm => ?_
  obtain ⟨d, hd, hR, hres⟩ := ih
  rcases Conf.move_cases hm with ⟨t, v', ht, rfl⟩ | ⟨i, r, o, k, a, v', hi, ha, rfl⟩
  · obtain ⟨w', hw', hR'⟩ := hU.tick t _ _ _ hR ht
    exact ⟨{ d with world := w' }, hd.move (m := .tick t) (by simp [Conf.move, hw']), hR',
      hres.thread, hres.history⟩
  · have ho : calls i o := hcalls i _ o k (hi ▸ hc.trace i)
    by_cases hchosen : chosen i
    · obtain ⟨w', hw', hR'⟩ := hU.own r i o a _ _ _ hchosen ho hR ha
      have hdi : d.thread i = .call o k := by rw [hres.thread i, if_pos hchosen, hi]
      exact ⟨d.attempt i o k a w', hd.move (m := .run i r) (by simp [Conf.move, hdi, hw']), hR',
        hres.attempt hchosen o k a v' w'⟩
    · exact ⟨d, hd, hU.other r i o a _ _ _ hchosen ho hR ha, hres.attempt_other hchosen o k a v'⟩

end Concurrency
