import FoundryIgra.Concurrency.Program
import Mathlib.Logic.Function.Basic

/-!
# Pools of programs over a shared world

Any number of programs run over one world. A *move* either changes the environment or lets one
thread attempt its pending call; an oracle resolves what the environment decides in that attempt
(clock readings, answers of other parties). A configuration keeps the full history of attempts,
each with the world before and after it, so properties of runs are properties of reachable
configurations.

## Main definitions

* `Machine`: how a world answers calls.
* `Conf`, `Conf.move`, `Conf.play`: configurations and runs.
* `Reachable`: the configurations some run reaches.
* `Conf.own`: the events of one thread.

## Main results

* `Reachable.invariant`: the induction principle over runs.
* `Reachable.trace`: the events of a thread are a trace of its program.
* `Reachable.wp`: a weakest precondition proved of one program alone holds of its thread in
  every reachable configuration.
-/

namespace Concurrency

/-- A world of type `W` that answers the calls of `I`. -/
structure Machine (I : Interface) (W : Type) where
  /-- What the environment decides when it moves by itself. -/
  Tick : Type
  /-- A move of the environment; `none` when the environment cannot do that. -/
  tick : Tick → W → Option W
  /-- What the environment decides when a call is attempted. -/
  Oracle : Type
  /-- The answer and the new world when thread `i` attempts a call; `none` when the environment
  cannot decide so. -/
  answer : Oracle → ℕ → W → (o : I.Op) → Option (I.Ans o × W)

/-- An attempted call in a history. -/
structure Entry (I : Interface) (W : Type) where
  /-- The thread. -/
  tid : ℕ
  /-- The call and its answer. -/
  event : I.Event
  /-- The world the call was attempted in. -/
  before : W
  /-- The world it left. -/
  after : W

/-- A configuration: the world, the history (most recent first) and what remains of each
thread. -/
structure Conf (I : Interface) (W α : Type) where
  world : W
  history : List (Entry I W)
  thread : ℕ → Program I α

/-- A move of the environment or of one thread. -/
inductive Move {I : Interface} {W : Type} (M : Machine I W) : Type
  | tick (t : M.Tick)
  | run (i : ℕ) (r : M.Oracle)

namespace Conf

variable {I : Interface} {W α : Type} {M : Machine I W}

/-- The configuration before any move. -/
def start (progs : ℕ → Program I α) (w : W) : Conf I W α := ⟨w, [], progs⟩

/-- The configuration after thread `i` was answered `a` on its call `o`. -/
def attempt (c : Conf I W α) (i : ℕ) (o : I.Op) (k : I.Out o → Program I α) (a : I.Ans o)
    (w : W) : Conf I W α where
  world := w
  history := ⟨i, ⟨o, a⟩, c.world, w⟩ :: c.history
  thread := Function.update c.thread i (Program.resume o k a)

/-- One move. -/
def move (M : Machine I W) (c : Conf I W α) : Move M → Option (Conf I W α)
  | .tick t => (M.tick t c.world).map fun w => { c with world := w }
  | .run i r =>
    match c.thread i with
    | .done _ => none
    | .call o k => (M.answer r i c.world o).map fun aw => c.attempt i o k aw.1 aw.2

/-- A list of moves, in order. -/
def play (M : Machine I W) (c : Conf I W α) : List (Move M) → Option (Conf I W α)
  | [] => some c
  | m :: ms => (c.move M m).bind fun c' => c'.play M ms

/-- The events of thread `i`, most recent first. -/
def own (c : Conf I W α) (i : ℕ) : List I.Event :=
  (c.history.filter fun e => e.tid = i).map Entry.event

/-- What a move can do. -/
theorem move_cases {c c' : Conf I W α} {m : Move M} (h : c.move M m = some c') :
    (∃ t w, M.tick t c.world = some w ∧ c' = { c with world := w }) ∨
    ∃ i r o k a w, c.thread i = .call o k ∧ M.answer r i c.world o = some (a, w) ∧
      c' = c.attempt i o k a w := by
  cases m with
  | tick t =>
    obtain ⟨w, hw, rfl⟩ := Option.map_eq_some_iff.mp h
    exact Or.inl ⟨t, w, hw, rfl⟩
  | run i r =>
    right
    simp only [move] at h
    cases hp : c.thread i with
    | done a => rw [hp] at h; cases h
    | call o k =>
      rw [hp] at h
      obtain ⟨⟨a, w⟩, hw, rfl⟩ := Option.map_eq_some_iff.mp h
      exact ⟨i, r, o, k, a, w, hp, hw, rfl⟩

theorem play_append (c : Conf I W α) (ms ns : List (Move M)) :
    c.play M (ms ++ ns) = (c.play M ms).bind fun c' => c'.play M ns := by
  induction ms generalizing c with
  | nil => rfl
  | cons m ms ih =>
    simp only [List.cons_append, play, Option.bind_assoc]
    exact congrArg _ (funext fun c' => ih c')

@[simp] theorem own_attempt_self (c : Conf I W α) (i : ℕ) (o : I.Op)
    (k : I.Out o → Program I α) (a : I.Ans o) (w : W) :
    (c.attempt i o k a w).own i = ⟨o, a⟩ :: c.own i := by
  simp [attempt, own]

theorem own_attempt_of_ne (c : Conf I W α) {i j : ℕ} (h : i ≠ j) (o : I.Op)
    (k : I.Out o → Program I α) (a : I.Ans o) (w : W) :
    (c.attempt i o k a w).own j = c.own j := by
  simp [attempt, own, h]

theorem own_attempt (c : Conf I W α) (i j : ℕ) (o : I.Op) (k : I.Out o → Program I α)
    (a : I.Ans o) (w : W) :
    (c.attempt i o k a w).own j = if i = j then ⟨o, a⟩ :: c.own j else c.own j := by
  split_ifs with h
  · rw [← h, own_attempt_self]
  · exact own_attempt_of_ne c h o k a w

theorem thread_attempt (c : Conf I W α) (i j : ℕ) (o : I.Op) (k : I.Out o → Program I α)
    (a : I.Ans o) (w : W) :
    (c.attempt i o k a w).thread j = if j = i then Program.resume o k a else c.thread j :=
  Function.update_apply ..

theorem mem_own {c : Conf I W α} {i : ℕ} {e : I.Event} :
    e ∈ c.own i ↔ ∃ x ∈ c.history, x.tid = i ∧ x.event = e := by
  simp [own, and_assoc]

end Conf

section Reachability

variable {I : Interface} {W α : Type} (M : Machine I W)

/-- Some run leads from `c` to `c'`. -/
def Leads (c c' : Conf I W α) : Prop := ∃ ms, c.play M ms = some c'

/-- Some run of `progs` from `w` leads to `c`. -/
def Reachable (progs : ℕ → Program I α) (w : W) (c : Conf I W α) : Prop :=
  Leads M (Conf.start progs w) c

variable {M} {progs : ℕ → Program I α} {w : W} {c c' : Conf I W α}

theorem Leads.refl (c : Conf I W α) : Leads M c c := ⟨[], rfl⟩

theorem Leads.trans {c₁ c₂ c₃ : Conf I W α} (h : Leads M c₁ c₂) (h' : Leads M c₂ c₃) :
    Leads M c₁ c₃ := by
  obtain ⟨ms, hms⟩ := h
  obtain ⟨ns, hns⟩ := h'
  exact ⟨ms ++ ns, by rw [Conf.play_append, hms, Option.bind_some, hns]⟩

theorem Leads.move {m : Move M} (h : c.move M m = some c') : Leads M c c' :=
  ⟨[m], by simp [Conf.play, h]⟩

/-- **Induction over runs.** A property that one move keeps holds along every run. -/
theorem Leads.invariant {P : Conf I W α → Prop} (h : Leads M c c') (h₀ : P c)
    (hstep : ∀ d d' m, Leads M c d → P d → d.move M m = some d' → P d') : P c' := by
  obtain ⟨ms, hms⟩ := h
  suffices H : ∀ d, Leads M c d → P d → d.play M ms = some c' → P c' from
    H c (Leads.refl c) h₀ hms
  clear hms
  induction ms with
  | nil =>
    intro d _ hd hplay
    obtain rfl : d = c' := Option.some_inj.mp hplay
    exact hd
  | cons m ms ih =>
    intro d hcd hd hplay
    obtain ⟨d', hm, hplay'⟩ := Option.bind_eq_some_iff.mp hplay
    exact ih d' (hcd.trans (Leads.move hm)) (hstep d d' m hcd hd hm) hplay'

/-- **Induction over runs from the start.** -/
theorem Reachable.invariant {P : Conf I W α → Prop} (h : Reachable M progs w c)
    (h₀ : P (Conf.start progs w))
    (hstep : ∀ d d' m, Reachable M progs w d → P d → d.move M m = some d' → P d') : P c :=
  Leads.invariant h h₀ hstep

theorem Reachable.move {m : Move M} (h : Reachable M progs w c) (hm : c.move M m = some c') :
    Reachable M progs w c' :=
  Leads.trans h (Leads.move hm)

/-- Where two schedules, one after the other, lead to. -/
theorem exists_leads_of_any {ms ms' : List (Move M)} {P Q : Conf I W α → Bool}
    (h : ((Conf.start progs w).play M ms).any (fun c => P c && (c.play M ms').any Q) = true) :
    ∃ c c', Reachable M progs w c ∧ Leads M c c' ∧ P c = true ∧ Q c' = true := by
  obtain ⟨c, hc, hP⟩ := (Option.any_eq_true ..).mp h
  obtain ⟨hPc, hnext⟩ := Bool.and_eq_true_iff.mp hP
  obtain ⟨c', hc', hQ⟩ := (Option.any_eq_true ..).mp hnext
  exact ⟨c, c', ⟨ms, hc⟩, ⟨ms', hc'⟩, hPc, hQ⟩

/-- A machine that can do what another does leads wherever the other does. -/
theorem Leads.of_machine {M' : Machine I W}
    (htick : ∀ t w w', M.tick t w = some w' → ∃ t', M'.tick t' w = some w')
    (hanswer : ∀ r i w o a w', M.answer r i w o = some (a, w') →
      ∃ r', M'.answer r' i w o = some (a, w')) (h : Leads M c c') : Leads M' c c' := by
  refine h.invariant (P := fun d => Leads M' c d) (Leads.refl c) fun d d' m _ hd hm => ?_
  rcases Conf.move_cases hm with ⟨t, w', ht, rfl⟩ | ⟨i, r, o, k, a, w', hi, ha, rfl⟩
  · obtain ⟨t', ht'⟩ := htick t d.world w' ht
    exact hd.trans (Leads.move (m := .tick t') (by simp [Conf.move, ht']))
  · obtain ⟨r', hr'⟩ := hanswer r i d.world o a w' ha
    exact hd.trans (Leads.move (m := .run i r') (by simp [Conf.move, hi, hr']))

/-- The events of a thread are a trace of its program. -/
theorem Reachable.trace (h : Reachable M progs w c) (i : ℕ) :
    Program.Trace (progs i) (c.own i) (c.thread i) := by
  refine h.invariant (P := fun c => Program.Trace (progs i) (c.own i) (c.thread i))
    Program.Trace.nil fun d d' m _ hd hm => ?_
  rcases Conf.move_cases hm with ⟨t, w', -, rfl⟩ | ⟨j, r, o, k, a, w', hj, -, rfl⟩
  · exact hd
  · rw [Conf.own_attempt, Conf.thread_attempt]
    by_cases hij : j = i
    · subst hij
      rw [if_pos rfl, if_pos rfl]
      exact Program.Trace.snoc (hj ▸ hd) a
    · rw [if_neg hij, if_neg (Ne.symm hij)]
      exact hd

/-- Every event of a run was answered by the machine. -/
theorem Reachable.allowed {allows : I.Event → Prop} (h : Reachable M progs w c)
    (hM : ∀ r i w o a w', M.answer r i w o = some (a, w') → allows ⟨o, a⟩) (i : ℕ) :
    ∀ e ∈ c.own i, allows e := by
  refine h.invariant (P := fun c => ∀ e ∈ c.own i, allows e) (by simp [Conf.start, Conf.own])
    fun d d' m _ hd hm => ?_
  rcases Conf.move_cases hm with ⟨t, w', -, rfl⟩ | ⟨j, r, o, k, a, w', -, ha, rfl⟩
  · exact hd
  · rw [Conf.own_attempt]
    split_ifs with hij
    · intro e he
      rcases List.mem_cons.mp he with rfl | he
      · exact hM r j d.world o a w' ha
      · exact hd e he
    · exact hd

section GhostValues

variable {G : Type} {allows : I.Event → Prop} {step : G → I.Event → G} {J : G → I.Op → Prop}
  {post : α → G → Prop}

/-- The ghost value of thread `i`: its events folded from `g`. -/
def Conf.ghost (step : G → I.Event → G) (g : G) (c : Conf I W α) (i : ℕ) : G :=
  (c.own i).foldr (fun e g => step g e) g

theorem Conf.ghost_attempt (g : G) (c : Conf I W α) (i j : ℕ) (o : I.Op)
    (k : I.Out o → Program I α) (a : I.Ans o) (w : W) :
    (c.attempt i o k a w).ghost step g j =
      if i = j then step (c.ghost step g j) ⟨o, a⟩ else c.ghost step g j := by
  rw [Conf.ghost]
  rw [Conf.own_attempt]
  split_ifs with h
  · rfl
  · rfl

/-- A property that a ghost value has and did not have at first was brought about by an entry. -/
theorem Conf.exists_of_ghost {Q : G → Prop} {g : G} (c : Conf I W α) {i : ℕ} (h₀ : ¬Q g)
    (h : Q (c.ghost step g i)) :
    ∃ x ∈ c.history, x.tid = i ∧ ∃ g', ¬Q g' ∧ Q (step g' x.event) := by
  have hlist : ∀ es : List I.Event, Q (es.foldr (fun e g => step g e) g) →
      ∃ e ∈ es, ∃ g', ¬Q g' ∧ Q (step g' e) := fun es hes => by
    induction es with
    | nil => exact absurd hes h₀
    | cons e es ih =>
      by_cases hq : Q (es.foldr (fun e g => step g e) g)
      · obtain ⟨e', he', hrest⟩ := ih hq
        exact ⟨e', List.mem_cons_of_mem _ he', hrest⟩
      · exact ⟨e, List.mem_cons_self, _, hq, hes⟩
  obtain ⟨e, he, hrest⟩ := hlist (c.own i) h
  obtain ⟨x, hx, hi, rfl⟩ := Conf.mem_own.mp he
  exact ⟨x, hx, hi, hrest⟩

/-- A property that every step keeps holds of a ghost value once an entry has brought it about. -/
theorem Conf.ghost_of_mem {Q : G → Prop} {g : G} {c : Conf I W α}
    (hkeep : ∀ g e, Q g → Q (step g e)) {x : Entry I W} (hx : x ∈ c.history)
    (hmake : ∀ g, Q (step g x.event)) : Q (c.ghost step g x.tid) := by
  have hlist : ∀ es : List I.Event, x.event ∈ es → Q (es.foldr (fun e g => step g e) g) :=
    fun es hes => by
      induction es with
      | nil => cases hes
      | cons e es ih =>
        rcases List.mem_cons.mp hes with rfl | hes
        · exact hmake _
        · exact hkeep _ e (ih hes)
  exact hlist (c.own x.tid) (Conf.mem_own.mpr ⟨x, hx, rfl, rfl⟩)

/-- A weakest precondition of one program alone holds of its thread in every run. -/
theorem Reachable.wp (h : Reachable M progs w c)
    (hM : ∀ r i w o a w', M.answer r i w o = some (a, w') → allows ⟨o, a⟩) {i : ℕ} {g : G}
    (hwp : Program.wp allows step J post (progs i) g) :
    Program.wp allows step J post (c.thread i) (c.ghost step g i) :=
  Program.Trace.wp hwp (h.trace i) (h.allowed hM i)

/-- The assertion at the pending call of a thread. -/
theorem Reachable.pending (h : Reachable M progs w c)
    (hM : ∀ r i w o a w', M.answer r i w o = some (a, w') → allows ⟨o, a⟩) {i : ℕ} {g : G}
    (hwp : Program.wp allows step J post (progs i) g) {o : I.Op}
    (ho : (c.thread i).status = .inl o) : J (c.ghost step g i) o :=
  (Program.wp_status (h.wp hM hwp)).1 o ho

/-- The postcondition of a thread that has returned. -/
theorem Reachable.returned (h : Reachable M progs w c)
    (hM : ∀ r i w o a w', M.answer r i w o = some (a, w') → allows ⟨o, a⟩) {i : ℕ} {g : G}
    (hwp : Program.wp allows step J post (progs i) g) {a : α}
    (ha : (c.thread i).status = .inr a) : post a (c.ghost step g i) :=
  (Program.wp_status (h.wp hM hwp)).2 a ha

end GhostValues

end Reachability

end Concurrency
