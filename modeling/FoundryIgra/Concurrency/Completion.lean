import FoundryIgra.Concurrency.Pool
import Mathlib.Logic.Relation

/-!
# Completing a program

How many calls a program makes for good, and that a thread of a pool which is not disturbed returns.

A call is *concluded* when it is answered with something the program goes on with; a call that polls
is attempted again. The number of concluded calls is bounded by the program alone. A thread
*completes* from a world when, whatever the environment decides within `fair` about each of its
calls and whatever the others do within `rely`, all its calls are concluded.

## Main definitions

* `Interface.concludes`: the answer concludes the call.
* `Program.Within`: the calls that a program concludes are at most so many.
* `Program.Completes`: all calls of the program are concluded.
* `LeadsBy`: the runs of moves that are allowed where they are made.
* `Undisturbed`: the runs in which one thread is not disturbed.

## Main results

* `Program.Trace.within`: the concluded calls of a trace.
* `Program.completes_bind`: sequencing.
* `Undisturbed.completes`, `Undisturbed.within`: it still completes, in at most so many calls.
* `Program.Completes.exists_returned`: the thread returns.
-/

namespace Concurrency

/-- The answer concludes the call. -/
def Interface.concludes (I : Interface) (e : I.Event) : Bool := (I.exit e.1 e.2).isSome

theorem countP_concludes_cons {I : Interface} (e : I.Event) (es : List I.Event) :
    (e :: es).countP I.concludes = es.countP I.concludes + if I.concludes e then 1 else 0 :=
  List.countP_cons ..

namespace Program

variable {I : Interface} {α β : Type}

/-! ### The number of calls -/

/-- Whatever is answered, at most `n` calls are concluded. -/
def Within : Program I α → ℕ → Prop
  | done _, _ => True
  | call _ k, n => ∃ m, m < n ∧ ∀ b, (k b).Within m

theorem Within.mono {p : Program I α} {m n : ℕ} (h : p.Within m) (hmn : m ≤ n) : p.Within n := by
  cases p with
  | done a => trivial
  | call o k =>
    obtain ⟨l, hl, hk⟩ := h
    exact ⟨l, Nat.lt_of_lt_of_le hl hmn, hk⟩

theorem within_pure (a : α) (n : ℕ) : (pure a : Program I α).Within n := trivial

theorem within_perform (o : I.Op) : (perform o).Within 1 :=
  ⟨0, Nat.zero_lt_one, fun _ => trivial⟩

/-- Sequencing. -/
theorem within_bind {p : Program I α} {f : α → Program I β} {m n k : ℕ} (hk : m + n ≤ k)
    (hp : p.Within m) (hf : ∀ a, (f a).Within n) : (p >>= f).Within k := by
  induction p generalizing m k with
  | done a => exact (hf a).mono (by omega)
  | call o c ih =>
    obtain ⟨l, hl, hc⟩ := hp
    exact ⟨l + n, by omega, fun b => ih b (Nat.le_refl _) (hc b)⟩

/-- **The concluded calls of a trace** and those that remain are within the bound. -/
theorem Trace.within {p q : Program I α} {es : List I.Event} {n : ℕ} (h : Trace p es q)
    (hp : p.Within n) : ∃ m, es.countP I.concludes + m ≤ n ∧ q.Within m := by
  induction h with
  | nil => exact ⟨n, by simp, hp⟩
  | @snoc es o k h a ih =>
    obtain ⟨m, hm, l, hl, hk⟩ := ih
    have hcount := countP_concludes_cons (⟨o, a⟩ : I.Event) es
    have hconcludes : I.concludes ⟨o, a⟩ = (I.exit o a).isSome := rfl
    rw [hconcludes] at hcount
    rw [resume]
    cases hx : I.exit o a with
    | none =>
      rw [hx] at hcount
      exact ⟨m, hcount ▸ hm, l, hl, hk⟩
    | some b =>
      rw [hx] at hcount
      refine ⟨l, ?_, hk b⟩
      rw [hcount, Option.isSome_some, if_pos rfl]
      omega

section Completes

variable {W : Type} {M : Machine I W} {i : ℕ} {fair : I.Op → M.Oracle → Prop} {rely : W → W → Prop}

/-- From the world `w` on every call that thread `i` attempts under an oracle that is fair to it is
concluded, while the others change the world by `rely` only, and `post` holds of the result from
then on. -/
def Completes (M : Machine I W) (i : ℕ) (fair : I.Op → M.Oracle → Prop) (rely : W → W → Prop)
    (post : α → W → Prop) : Program I α → W → Prop
  | done a, w => ∀ w', rely w w' → post a w'
  | call o k, w => ∀ w', rely w w' → ∀ r a w'', fair o r → M.answer r i w' o = some (a, w'') →
      ∃ b, I.exit o a = some b ∧ Completes M i fair rely post (k b) w''

/-- What the others do does not matter. -/
theorem Completes.stable (htrans : ∀ u v w, rely u v → rely v w → rely u w)
    {post : α → W → Prop} {p : Program I α} {w w' : W} (h : Completes M i fair rely post p w)
    (hw : rely w w') : Completes M i fair rely post p w' := by
  cases p with
  | done a => exact fun v hv => h v (htrans w w' v hw hv)
  | call o k => exact fun v hv => h v (htrans w w' v hw hv)

/-- What holds of the result. -/
theorem Completes.returned (hrefl : ∀ w, rely w w) {post : α → W → Prop} {p : Program I α} {w : W}
    (h : Completes M i fair rely post p w) {a : α} (ha : p.status = .inr a) : post a w := by
  cases p with
  | done b =>
    obtain rfl : b = a := Sum.inr.inj ha
    exact h w (hrefl w)
  | call o k => cases ha

theorem Completes.mono {post post' : α → W → Prop} (hpost : ∀ a w, post a w → post' a w)
    {p : Program I α} {w : W} (h : Completes M i fair rely post p w) :
    Completes M i fair rely post' p w := by
  induction p generalizing w with
  | done a => exact fun w' hw => hpost a w' (h w' hw)
  | call o k ih =>
    intro w' hw r a w'' hr ha
    obtain ⟨b, hb, hk⟩ := h w' hw r a w'' hr ha
    exact ⟨b, hb, ih b hk⟩

end Completes

end Program

/-! ### Runs in which one thread is not disturbed -/

section Undisturbed

variable {I : Interface} {W α : Type}

/-- Some run leads from `c` to `c'` in which every move is allowed where it is made. -/
def LeadsBy (M : Machine I W) (allowed : Conf I W α → Move M → Prop) (c c' : Conf I W α) : Prop :=
  Relation.ReflTransGen (fun d d' => ∃ m, allowed d m ∧ d.move M m = some d') c c'

/-- A run from `c` in which thread `i` moves under fair oracles and all else changes the world by
`rely` only. -/
inductive Undisturbed (M : Machine I W) (i : ℕ) (fair : I.Op → M.Oracle → Prop) (rely : W → W → Prop)
    (c : Conf I W α) : Conf I W α → Prop
  | refl : Undisturbed M i fair rely c c
  | own {d d' : Conf I W α} {r : M.Oracle} (h : Undisturbed M i fair rely c d)
      (hr : ∀ o, (d.thread i).status = .inl o → fair o r) (hm : d.move M (.run i r) = some d') :
      Undisturbed M i fair rely c d'
  | other {d d' : Conf I W α} {m : Move M} (h : Undisturbed M i fair rely c d)
      (hne : ∀ r, m ≠ .run i r) (hw : rely d.world d'.world) (hm : d.move M m = some d') :
      Undisturbed M i fair rely c d'

variable {M : Machine I W} {i : ℕ} {fair : I.Op → M.Oracle → Prop} {rely : W → W → Prop}
  {c c' : Conf I W α}

/-- What a move of thread `i` does. -/
theorem Conf.move_run {r : M.Oracle} {d d' : Conf I W α} (hm : d.move M (.run i r) = some d') :
    ∃ o k a w, d.thread i = .call o k ∧ M.answer r i d.world o = some (a, w) ∧
      d' = d.attempt i o k a w := by
  simp only [Conf.move] at hm
  cases hp : d.thread i with
  | done a => rw [hp] at hm; cases hm
  | call o k =>
    rw [hp] at hm
    obtain ⟨⟨a, w⟩, ha, rfl⟩ := Option.map_eq_some_iff.mp hm
    exact ⟨o, k, a, w, rfl, ha, rfl⟩

/-- What any other move leaves alone. -/
theorem Conf.move_other {m : Move M} {d d' : Conf I W α} (hm : d.move M m = some d')
    (hne : ∀ r, m ≠ .run i r) : d'.thread i = d.thread i ∧ d'.own i = d.own i := by
  cases m with
  | tick t =>
    obtain ⟨w, -, rfl⟩ := Option.map_eq_some_iff.mp hm
    exact ⟨rfl, rfl⟩
  | run j r =>
    have hji : j ≠ i := fun h => hne r (h ▸ rfl)
    obtain ⟨o, k, a, w, -, -, rfl⟩ := Conf.move_run hm
    exact ⟨by rw [Conf.thread_attempt, if_neg hji.symm], Conf.own_attempt_of_ne d hji o k a w⟩

/-- **A program that completes still does**, wherever the run has got to. -/
theorem Undisturbed.completes (htrans : ∀ u v w, rely u v → rely v w → rely u w)
    (hrefl : ∀ w, rely w w) {post : α → W → Prop} (h : Undisturbed M i fair rely c c')
    (hc : Program.Completes M i fair rely post (c.thread i) c.world) :
    Program.Completes M i fair rely post (c'.thread i) c'.world := by
  induction h with
  | refl => exact hc
  | @own d d' r _ hr hm ih =>
    obtain ⟨o, k, a, w, hthread, ha, rfl⟩ := Conf.move_run hm
    have hfair : fair o r := hr o (by rw [hthread]; rfl)
    rw [hthread] at ih
    obtain ⟨b, hb, hk⟩ := ih d.world (hrefl d.world) r a w hfair ha
    rw [Conf.thread_attempt, if_pos rfl, Program.resume, hb]
    exact hk
  | other _ hne hw hm ih =>
    rw [(Conf.move_other hm hne).1]
    exact ih.stable htrans hw

/-- **The calls it still makes** are within the bound of its program. -/
theorem Undisturbed.within (htrans : ∀ u v w, rely u v → rely v w → rely u w)
    (hrefl : ∀ w, rely w w) {post : α → W → Prop} (h : Undisturbed M i fair rely c c')
    (hc : Program.Completes M i fair rely post (c.thread i) c.world) {n : ℕ}
    (hn : (c.thread i).Within n) :
    ∃ m, (c'.own i).length + m ≤ (c.own i).length + n ∧ (c'.thread i).Within m := by
  induction h with
  | refl => exact ⟨n, Nat.le_refl _, hn⟩
  | @own d d' r h hr hm ih =>
    obtain ⟨m, hm', hwithin⟩ := ih
    have hcompletes := h.completes htrans hrefl hc
    obtain ⟨o, k, a, w, hthread, ha, rfl⟩ := Conf.move_run hm
    have hfair : fair o r := hr o (by rw [hthread]; rfl)
    rw [hthread] at hcompletes hwithin
    obtain ⟨b, hb, -⟩ := hcompletes d.world (hrefl d.world) r a w hfair ha
    obtain ⟨l, hl, hk⟩ := hwithin
    refine ⟨l, ?_, ?_⟩
    · have hlength : ((d.attempt i o k a w).own i).length = (d.own i).length + 1 :=
        congrArg List.length (Conf.own_attempt_self d i o k a w)
      omega
    · rw [Conf.thread_attempt, if_pos rfl, Program.resume, hb]
      exact hk b
  | other _ hne _ hm ih =>
    rw [(Conf.move_other hm hne).1, (Conf.move_other hm hne).2]
    exact ih

/-- **It returns** where the calls of thread `i` can be answered, by moves of its own. -/
theorem Program.Completes.exists_returned (hrefl : ∀ w, rely w w) {J : W → Prop}
    (hJ : ∀ w o, J w → ∃ r a w', fair o r ∧ M.answer r i w o = some (a, w') ∧ J w')
    {allowed : Conf I W α → Move M → Prop}
    (hallowed : ∀ d o r, (d.thread i).status = .inl o → fair o r → allowed d (.run i r))
    {post : α → W → Prop} (hc : Program.Completes M i fair rely post (c.thread i) c.world)
    (hw : J c.world) :
    ∃ c' a, LeadsBy M allowed c c' ∧ (c'.thread i).status = .inr a ∧ post a c'.world := by
  suffices H : ∀ p (c : Conf I W α), c.thread i = p →
      Program.Completes M i fair rely post p c.world → J c.world →
        ∃ c' a, LeadsBy M allowed c c' ∧ (c'.thread i).status = .inr a ∧ post a c'.world from
    H _ c rfl hc hw
  intro p
  induction p with
  | done a =>
    exact fun c hthread hc _ => ⟨c, a, .refl, by rw [hthread]; rfl, hc _ (hrefl _)⟩
  | call o k ih =>
    intro c hthread hc hw
    obtain ⟨r, a, w', hr, ha, hw'⟩ := hJ c.world o hw
    obtain ⟨b, hb, hk⟩ := hc c.world (hrefl c.world) r a w' hr ha
    have hmove : c.move M (.run i r) = some (c.attempt i o k a w') := by
      simp [Conf.move, hthread, ha]
    have hnext : (c.attempt i o k a w').thread i = k b := by
      rw [Conf.thread_attempt, if_pos rfl, Program.resume, hb]
    have hpending : (c.thread i).status = .inl o := by
      rw [hthread]
      rfl
    obtain ⟨c', a', hleads, hdone⟩ := ih b _ hnext hk hw'
    exact ⟨c', a', .head ⟨_, hallowed c o r hpending hr, hmove⟩ hleads, hdone⟩

end Undisturbed

end Concurrency
