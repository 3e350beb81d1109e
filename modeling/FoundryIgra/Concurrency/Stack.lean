import FoundryIgra.Concurrency.Pool

/-!
# Programs that carry out calls

Some calls of one interface are *carried out* by programs over another: a pool of programs over the
first then becomes a pool over both, in which a thread that has come to such a call runs the program
of the call and goes on with what it returns. What holds of the pool above, where such a call is
answered at once by the environment, holds of the stack: the stack simulates it.

## Main definitions

* `Interface.sum`, `Machine.sum`: two interfaces, and two machines, side by side.
* `Delegation`: the programs that carry out calls.
* `Program.lift`, `Delegation.expand`: programs over both interfaces.
* `Delegation.Simulates`: a configuration of the pool above is one of the stack.

## Main results

* `Delegation.Simulates.exists_leads`: the pool above follows every run of the stack, and each call
  that is carried out was answered there with what its program returned.
* `Delegation.exists_simulated`: so every configuration that the stack reaches is one that the pool
  above reaches.
-/

namespace Concurrency

/-- The calls of two interfaces. -/
@[reducible] def Interface.sum (I L : Interface) : Interface where
  Op := I.Op ⊕ L.Op
  Ans
    | .inl o => I.Ans o
    | .inr o => L.Ans o
  Out
    | .inl o => I.Out o
    | .inr o => L.Out o
  exit
    | .inl o => I.exit o
    | .inr o => L.exit o

/-- Two machines side by side. -/
def Machine.sum {I L : Interface} {W V : Type} (M : Machine I W) (N : Machine L V) :
    Machine (I.sum L) (W × V) where
  Tick := M.Tick ⊕ N.Tick
  tick
    | .inl t, w => (M.tick t w.1).map fun w' => (w', w.2)
    | .inr t, w => (N.tick t w.2).map fun v' => (w.1, v')
  Oracle := M.Oracle × N.Oracle
  answer r i w
    | .inl o => (M.answer r.1 i w.1 o).map fun aw => (aw.1, (aw.2, w.2))
    | .inr o => (N.answer r.2 i w.2 o).map fun av => (av.1, (w.1, av.2))

/-- The calls of `I` that programs over `L` carry out. -/
structure Delegation (I L : Interface) where
  body : (o : I.Op) → Option (Program L (I.Out o))

variable {I L : Interface} {α β : Type}

/-- An event of the second interface. -/
def Interface.lower (e : L.Event) : (I.sum L).Event := ⟨.inr e.1, e.2⟩

/-- A program over the second interface. -/
def Program.lift : Program L α → Program (I.sum L) α
  | .done a => .done a
  | .call o k => .call (.inr o) fun b => (k b).lift

namespace Delegation

variable (D : Delegation I L)

/-- A program with the programs of its calls in their places. -/
def expand : Program I α → Program (I.sum L) α
  | .done a => .done a
  | .call o k => (D.body o).elim (.call (.inl o) fun b => expand (k b))
      fun q => q.lift.bind fun b => expand (k b)

variable {D}

theorem expand_of_kept {o : I.Op} (ho : D.body o = none) (k : I.Out o → Program I α) :
    D.expand (.call o k) = .call (.inl o) fun b => D.expand (k b) := by
  rw [expand, ho, Option.elim_none]

theorem expand_of_carried {o : I.Op} {q : Program L (I.Out o)} (ho : D.body o = some q)
    (k : I.Out o → Program I α) :
    D.expand (.call o k) = q.lift.bind fun b => D.expand (k b) := by
  rw [expand, ho, Option.elim_some]

/-- What the thread `p` of a stack, whose events are `own`, is when the thread above is `u`: it is
at the same point, or carries out the pending call. -/
inductive Stage (D : Delegation I L) (own : List (I.sum L).Event) :
    Program (I.sum L) α → Program I α → Prop
  | level (u : Program I α) : Stage D own (D.expand u) u
  | within {o : I.Op} {k : I.Out o → Program I α} {q rest : Program L (I.Out o)}
      {es : List L.Event} (hbody : D.body o = some q) (htrace : Program.Trace q es rest)
      (hown : ∀ e ∈ es, Interface.lower e ∈ own) :
      Stage D own (rest.lift.bind fun b => D.expand (k b)) (.call o k)

/-- A stage at which the thread above has no call that can be answered yet. -/
inductive Settled (D : Delegation I L) (own : List (I.sum L).Event) :
    Program (I.sum L) α → Program I α → Prop
  | done (a : α) : Settled D own (.done a) (.done a)
  | level {o : I.Op} {k : I.Out o → Program I α} (hbody : D.body o = none) :
      Settled D own (.call (.inl o) fun b => D.expand (k b)) (.call o k)
  | within {o : I.Op} {k : I.Out o → Program I α} {q : Program L (I.Out o)} {o' : L.Op}
      {k' : L.Out o' → Program L (I.Out o)} {es : List L.Event} (hbody : D.body o = some q)
      (htrace : Program.Trace q es (.call o' k')) (hown : ∀ e ∈ es, Interface.lower e ∈ own) :
      Settled D own (.call (.inr o') fun b' => (k' b').lift.bind fun b => D.expand (k b))
        (.call o k)

theorem Stage.mono {own own' : List (I.sum L).Event} {p : Program (I.sum L) α} {u : Program I α}
    (h : Stage D own p u) (hsub : own ⊆ own') : Stage D own' p u := by
  cases h with
  | level => exact .level u
  | within hbody htrace hown => exact .within hbody htrace fun e he => hsub (hown e he)

section Pools

variable {W V : Type} {M : Machine I W} {N : Machine L V} {progs : ℕ → Program I α}
  {w : W} {v : V} {c c' : Conf (I.sum L) (W × V) α} {u : Conf I W α}

/-- The environment above may answer a call that is carried out with anything, at once. -/
def Carries (D : Delegation I L) (M : Machine I W) : Prop :=
  ∀ o q, D.body o = some q → ∀ i w b, ∃ r a, M.answer r i w o = some (a, w) ∧ I.exit o a = some b

/-- The entry above is a call that the stack has carried out. -/
def CarriedOut (D : Delegation I L) (own : List (I.sum L).Event) (x : Entry I W) : Prop :=
  ∀ q, D.body x.event.1 = some q → ∃ b es, I.exit x.event.1 x.event.2 = some b ∧
    Program.Trace q es (.done b) ∧ ∀ e ∈ es, Interface.lower e ∈ own

/-- The configuration `u` above is the configuration `c` of the stack. -/
structure Simulates (D : Delegation I L) (c : Conf (I.sum L) (W × V) α) (u : Conf I W α) :
    Prop where
  world : u.world = c.world.1
  stage : ∀ i, Stage D (c.own i) (c.thread i) (u.thread i)
  carriedOut : ∀ x ∈ u.history, CarriedOut D (c.own x.tid) x

theorem CarriedOut.mono {own own' : List (I.sum L).Event} {x : Entry I W}
    (h : CarriedOut D own x) (hsub : own ⊆ own') : CarriedOut D own' x := by
  intro q hq
  obtain ⟨b, es, hexit, htrace, hown⟩ := h q hq
  exact ⟨b, es, hexit, htrace, fun e he => hsub (hown e he)⟩

/-- A call that was carried out is answered above. -/
theorem Simulates.answer (hcarries : Carries D M) (h : Simulates D c u) {i : ℕ} {o : I.Op}
    {k : I.Out o → Program I α} (hi : u.thread i = .call o k) {q : Program L (I.Out o)}
    (hbody : D.body o = some q) {b : I.Out o} {es : List L.Event}
    (htrace : Program.Trace q es (.done b)) (hown : ∀ e ∈ es, Interface.lower e ∈ c.own i)
    (hthread : c.thread i = D.expand (k b)) :
    ∃ u', Leads M u u' ∧ Simulates D c u' ∧ u'.thread i = k b := by
  obtain ⟨r, a, hanswer, hexit⟩ := hcarries o q hbody i u.world b
  have hnext : Program.resume o k a = k b := by rw [Program.resume, hexit]
  have hself : (u.attempt i o k a u.world).thread i = k b := by
    rw [Conf.thread_attempt, if_pos rfl, hnext]
  refine ⟨u.attempt i o k a u.world,
    Leads.move (m := .run i r) (by simp [Conf.move, hi, hanswer]),
    ⟨h.world, fun j => ?_, ?_⟩, hself⟩
  · by_cases hji : j = i
    · subst hji
      rw [hself, hthread]
      exact .level _
    · rw [Conf.thread_attempt, if_neg hji]
      exact h.stage j
  · intro x hx
    rcases List.mem_cons.mp hx with rfl | hx
    · intro q' hq'
      obtain rfl : q = q' := Option.some_inj.mp (hbody.symm.trans hq')
      exact ⟨b, es, hexit, htrace, hown⟩
    · exact h.carriedOut x hx

/-- **Settling.** The calls above that the stack has carried out are answered, until a thread is at
a call of its own. -/
theorem Simulates.exists_settled (hcarries : Carries D M) (h : Simulates D c u) (i : ℕ) :
    ∃ u', Leads M u u' ∧ Simulates D c u' ∧ Settled D (c.own i) (c.thread i) (u'.thread i) := by
  generalize hU : u.thread i = U
  induction U generalizing u with
  | done a =>
    have hstage := h.stage i
    rw [hU] at hstage
    refine ⟨u, Leads.refl u, h, ?_⟩
    rw [hU]
    generalize c.thread i = p at hstage
    cases hstage with
    | level => exact .done a
  | call o k ih =>
    have hstage := h.stage i
    rw [hU] at hstage
    -- a program that is carried out either waits for a call or has returned
    have hwithin : ∀ {q rest : Program L (I.Out o)} {es : List L.Event}, D.body o = some q →
        Program.Trace q es rest → (∀ e ∈ es, Interface.lower e ∈ c.own i) →
        c.thread i = rest.lift.bind (fun b => D.expand (k b)) →
        ∃ u', Leads M u u' ∧ Simulates D c u' ∧
          Settled D (c.own i) (c.thread i) (u'.thread i) := by
      intro q rest es hbody htrace hown hthread
      cases rest with
      | call o' k' =>
        refine ⟨u, Leads.refl u, h, ?_⟩
        rw [hU, hthread]
        exact .within hbody htrace hown
      | done b =>
        obtain ⟨u', hlead, hsim, hnext⟩ :=
          h.answer hcarries hU hbody htrace hown hthread
        obtain ⟨u'', hlead', hsim', hsettled⟩ := ih b hsim hnext
        exact ⟨u'', hlead.trans hlead', hsim', hsettled⟩
    generalize hp : c.thread i = p at hstage
    cases hstage with
    | within hbody htrace hown => exact hp ▸ hwithin hbody htrace hown hp
    | level =>
      cases hbody : D.body o with
      | none =>
        refine ⟨u, Leads.refl u, h, ?_⟩
        rw [hU, expand_of_kept hbody]
        exact .level hbody
      | some q =>
        rw [expand_of_carried hbody] at hp ⊢
        exact hp ▸ hwithin hbody .nil (fun e he => absurd he List.not_mem_nil) hp

/-- More events of a thread. -/
theorem own_subset_attempt (i j : ℕ) (o : (I.sum L).Op) (k : (I.sum L).Out o → Program (I.sum L) α)
    (a : (I.sum L).Ans o) (w : W × V) : c.own j ⊆ (c.attempt i o k a w).own j := by
  rw [Conf.own_attempt]
  split_ifs
  · exact List.subset_cons_self ..
  · exact List.Subset.refl _

/-- After a call of the thread above. -/
theorem stage_resume_level {own : List (I.sum L).Event} {o : I.Op} {k : I.Out o → Program I α}
    (hbody : D.body o = none) (a : I.Ans o) :
    Stage D own (Program.resume (I := I.sum L) (.inl o) (fun b => D.expand (k b)) a)
      (Program.resume o k a) := by
  rw [Program.resume, Program.resume]
  cases I.exit o a with
  | none =>
    simp only
    rw [← expand_of_kept hbody]
    exact .level _
  | some b => exact .level _

/-- A call that the thread above makes as well. -/
theorem Simulates.attempt_level (h : Simulates D c u) {i : ℕ} {o : I.Op}
    {k : I.Out o → Program I α} (hbody : D.body o = none)
    {k' : (I.sum L).Out (.inl o) → Program (I.sum L) α} (hk : k' = fun b => D.expand (k b))
    {a : (I.sum L).Ans (.inl o)} {w' : W} :
    Simulates D (c.attempt i (.inl o) k' a (w', c.world.2)) (u.attempt i o k a w') := by
  refine ⟨rfl, fun j => ?_, fun x hx => ?_⟩
  · rw [Conf.thread_attempt, Conf.thread_attempt]
    by_cases hji : j = i
    · subst hji
      rw [if_pos rfl, if_pos rfl, hk]
      exact stage_resume_level hbody a
    · rw [if_neg hji, if_neg hji]
      exact (h.stage j).mono (own_subset_attempt ..)
  · rcases List.mem_cons.mp hx with rfl | hx
    · intro q hq
      rw [hbody] at hq
      cases hq
    · exact (h.carriedOut x hx).mono (own_subset_attempt ..)

theorem resume_within {o : I.Op} {k : I.Out o → Program I α} {o' : L.Op}
    {r : L.Out o' → Program L (I.Out o)} (a : L.Ans o') :
    Program.resume (I := I.sum L) (.inr o') (fun b' => (r b').lift.bind fun b => D.expand (k b)) a =
      (Program.resume o' r a).lift.bind fun b => D.expand (k b) := by
  rw [Program.resume, Program.resume]
  cases L.exit o' a <;> rfl

/-- A call of the program that carries out the pending call above. -/
theorem Simulates.attempt_within (h : Simulates D c u) {i : ℕ} {o : I.Op}
    {k : I.Out o → Program I α} (hi : u.thread i = .call o k) {q : Program L (I.Out o)}
    (hbody : D.body o = some q) {o' : L.Op} {r : L.Out o' → Program L (I.Out o)}
    {es : List L.Event} (htrace : Program.Trace q es (.call o' r))
    (hown : ∀ e ∈ es, Interface.lower e ∈ c.own i)
    {k' : (I.sum L).Out (.inr o') → Program (I.sum L) α}
    (hk : k' = fun b' => (r b').lift.bind fun b => D.expand (k b)) {a : (I.sum L).Ans (.inr o')}
    {v' : V} : Simulates D (c.attempt i (.inr o') k' a (c.world.1, v')) u := by
  refine ⟨h.world, fun j => ?_,
    fun x hx => (h.carriedOut x hx).mono (own_subset_attempt ..)⟩
  rw [Conf.thread_attempt]
  by_cases hji : j = i
  · subst hji
    rw [if_pos rfl, hi, hk, resume_within, Conf.own_attempt_self]
    refine .within hbody (htrace.snoc a) fun e he => ?_
    rcases List.mem_cons.mp he with rfl | he
    · exact List.mem_cons_self
    · exact List.mem_cons_of_mem _ (hown e he)
  · rw [if_neg hji]
    exact (h.stage j).mono (own_subset_attempt ..)

/-- **The pool above simulates the stack**: it follows every run of the stack. -/
theorem Simulates.exists_leads (hcarries : Carries D M) (h : Simulates D c u)
    (hlead : Leads (M.sum N) c c') : ∃ u', Leads M u u' ∧ Simulates D c' u' := by
  refine Leads.invariant hlead (P := fun c' => ∃ u', Leads M u u' ∧ Simulates D c' u')
    ⟨u, Leads.refl u, h⟩ fun d d' m _ hd hm => ?_
  obtain ⟨u, hu, hsim⟩ := hd
  rcases Conf.move_cases hm with ⟨t, w', ht, rfl⟩ | ⟨i, r, o, k, a, w', hi, ha, rfl⟩
  · cases t with
    | inl t =>
      obtain ⟨w₁, hw₁, rfl⟩ := Option.map_eq_some_iff.mp ht
      have hmove : u.move M (.tick t) = some { u with world := w₁ } := by
        rw [Conf.move, hsim.world, hw₁, Option.map_some]
      exact ⟨_, hu.trans (Leads.move hmove), rfl, hsim.stage, hsim.carriedOut⟩
    | inr t =>
      obtain ⟨v₁, -, rfl⟩ := Option.map_eq_some_iff.mp ht
      exact ⟨u, hu, hsim.world, hsim.stage, hsim.carriedOut⟩
  · obtain ⟨u', hlead, hsim', hsettled⟩ := hsim.exists_settled hcarries i
    rw [hi] at hsettled
    generalize hU : u'.thread i = U at hsettled
    cases hsettled with
    | level hbody =>
      obtain ⟨⟨b, w₁⟩, hanswer, heq⟩ := Option.map_eq_some_iff.mp ha
      obtain ⟨rfl, rfl⟩ := Prod.mk.inj heq
      refine ⟨_, (hu.trans hlead).trans (Leads.move (m := .run i r.1) ?_),
        hsim'.attempt_level hbody rfl⟩
      simp only [Conf.move, hU, hsim'.world, hanswer, Option.map_some]
    | within hbody htrace hown =>
      obtain ⟨⟨b, v₁⟩, -, heq⟩ := Option.map_eq_some_iff.mp ha
      obtain ⟨rfl, rfl⟩ := Prod.mk.inj heq
      exact ⟨u', hu.trans hlead, hsim'.attempt_within hU hbody htrace hown rfl⟩

/-- Every configuration that the stack reaches is one that the pool above reaches. -/
theorem exists_simulated (hcarries : Carries D M)
    (h : Reachable (M.sum N) (fun i => D.expand (progs i)) (w, v) c) :
    ∃ u, Reachable M progs w u ∧ Simulates D c u := by
  have hstart : Simulates D (Conf.start (fun i => D.expand (progs i)) (w, v))
      (Conf.start progs w) :=
    ⟨rfl, fun i => .level (progs i), fun x hx => absurd hx List.not_mem_nil⟩
  exact hstart.exists_leads hcarries h

end Pools

end Delegation

end Concurrency
