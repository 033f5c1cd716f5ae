import Mathlib.Data.List.Induction

/-!
# Lib.Automaton

Labelled automata given by a partial step function: a label carries every
choice the environment makes, so a run is a list of labels and can be
evaluated.  What one step preserves is lifted here, once, to what every run
preserves; nothing in this module knows what the states are.

* `Reachable.invariant` — an inductive invariant holds in every reachable state;
* `run_induction` — induction on a run, one label at a time at its end;
* `Along` — "every step of the run meets the condition `P`";
* `along_keeps_iff` — from an exact condition on a step to one on a run;
* `leads_to_rest` — from progress in every step to what a system can always reach.
-/

universe u v

/-- A labelled automaton: the states it may start in and the state one labelled
step leads to, `none` when the label is not enabled. -/
structure Automaton (σ : Type u) (ε : Type v) where
  init : σ → Prop
  step : σ → ε → Option σ

namespace Automaton

variable {σ : Type u} {ε : Type v} (A : Automaton σ ε)

/-! ## runs -/

/-- The state a list of labels leads to, `none` as soon as one is not enabled. -/
def run : σ → List ε → Option σ
  | s, [] => some s
  | s, e :: es => (A.step s e).bind fun t => run t es

@[simp] theorem run_nil (s : σ) : A.run s [] = some s := rfl

@[simp] theorem run_cons (s : σ) (e : ε) (es : List ε) :
    A.run s (e :: es) = (A.step s e).bind fun t => A.run t es := rfl

theorem run_append (s : σ) (es fs : List ε) :
    A.run s (es ++ fs) = (A.run s es).bind fun t => A.run t fs := by
  induction es generalizing s with
  | nil => rfl
  | cons e es ih =>
      cases h : A.step s e with
      | none => simp [h]
      | some t => simp [h, ih]

/-- The last step of a run. -/
theorem run_snoc (s : σ) (es : List ε) (e : ε) :
    A.run s (es ++ [e]) = (A.run s es).bind fun t => A.step t e := by
  rw [run_append]
  cases A.run s es with
  | none => rfl
  | some t => cases h : A.step t e <;> simp [h]

theorem run_snoc_eq_some {s u : σ} {es : List ε} {e : ε} :
    A.run s (es ++ [e]) = some u ↔ ∃ t, A.run s es = some t ∧ A.step t e = some u := by
  rw [run_snoc, Option.bind_eq_some_iff]

/-- **Run induction**: what holds of the empty run and is kept when a run is
extended by one enabled label holds of every run. -/
theorem run_induction {motive : List ε → σ → Prop} {s : σ} (nil : motive [] s)
    (snoc : ∀ es e t u, A.run s es = some t → A.step t e = some u →
      motive es t → motive (es ++ [e]) u)
    {es : List ε} {t : σ} (h : A.run s es = some t) : motive es t := by
  induction es using List.reverseRecOn generalizing t with
  | nil =>
      rw [run_nil, Option.some.injEq] at h
      exact h ▸ nil
  | append_singleton es e ih =>
      obtain ⟨m, hm, he⟩ := (A.run_snoc_eq_some).mp h
      exact snoc es e m t hm he (ih hm)

/-- What holds at the start of a run and is kept by every step holds at its end. -/
theorem run_invariant {I : σ → Prop} {s : σ} (h : I s)
    (hstep : ∀ t e u, I t → A.step t e = some u → I u)
    {es : List ε} {t : σ} (hes : A.run s es = some t) : I t :=
  A.run_induction (motive := fun _ t => I t) h (fun _ e t u _ he ht => hstep t e u ht he) hes

/-! ## reachable states -/

/-- The states some run from an initial state ends in. -/
def Reachable (t : σ) : Prop := ∃ s es, A.init s ∧ A.run s es = some t

variable {A}

theorem Reachable.init {s : σ} (h : A.init s) : A.Reachable s := ⟨s, [], h, rfl⟩

theorem Reachable.step {s t : σ} {e : ε} (h : A.Reachable s) (he : A.step s e = some t) :
    A.Reachable t := by
  obtain ⟨s₀, es, h₀, hes⟩ := h
  exact ⟨s₀, es ++ [e], h₀, A.run_snoc_eq_some.mpr ⟨s, hes, he⟩⟩

theorem Reachable.run {s t : σ} {es : List ε} (h : A.Reachable s) (hes : A.run s es = some t) :
    A.Reachable t := by
  obtain ⟨s₀, fs, h₀, hfs⟩ := h
  exact ⟨s₀, fs ++ es, h₀, by rw [run_append, hfs, Option.bind_some, hes]⟩

/-- **Invariant rule**: a property of the initial states that every step from a
reachable state preserves holds of every reachable state. -/
theorem Reachable.invariant {I : σ → Prop} (hinit : ∀ s, A.init s → I s)
    (hstep : ∀ s e t, A.Reachable s → I s → A.step s e = some t → I t)
    {t : σ} (h : A.Reachable t) : I t := by
  obtain ⟨s, es, hs, hes⟩ := h
  have hkept : ∀ s e t, A.Reachable s ∧ I s → A.step s e = some t → A.Reachable t ∧ I t := by
    intro s e t hs hst
    exact ⟨hs.1.step hst, hstep s e t hs.1 hs.2 hst⟩
  exact (A.run_invariant ⟨.init hs, hinit s hs⟩ hkept hes).2

/-- **Simulation rule**: if a view of the states follows another automaton, a step at
a time or not at all, the views of reachable states are reachable there. -/
theorem Reachable.simulate {τ : Type*} {φ : Type*} {B : Automaton τ φ} (view : σ → τ)
    (hinit : ∀ s, A.init s → B.init (view s))
    (hstep : ∀ s e t, A.step s e = some t → view t = view s ∨ ∃ f, B.step (view s) f = some (view t))
    {t : σ} (h : A.Reachable t) : B.Reachable (view t) := by
  refine h.invariant (I := fun t => B.Reachable (view t)) (fun s hs => .init (hinit s hs)) ?_
  intro s e t _ hs hst
  cases hstep s e t hst with
  | inl hsame => exact hsame ▸ hs
  | inr hmoved =>
      obtain ⟨f, hf⟩ := hmoved
      exact hs.step hf

/-- A run is one of another automaton that a view of the states follows. -/
theorem run_simulate {τ : Type*} {φ : Type*} {B : Automaton τ φ} (view : σ → τ)
    (hstep : ∀ s e t, A.step s e = some t → view t = view s ∨ ∃ f, B.step (view s) f = some (view t))
    {s t : σ} {es : List ε} (h : A.run s es = some t) : ∃ fs, B.run (view s) fs = some (view t) := by
  refine A.run_induction (motive := fun _ t => ∃ fs, B.run (view s) fs = some (view t))
    ⟨[], rfl⟩ ?_ h
  rintro es e t u _ he ⟨fs, hfs⟩
  cases hstep t e u he with
  | inl hsame => exact ⟨fs, by rw [hsame, hfs]⟩
  | inr hmoved =>
      obtain ⟨f, hf⟩ := hmoved
      exact ⟨fs ++ [f], B.run_snoc_eq_some.mpr ⟨_, hfs, hf⟩⟩

/-! ## what certain labels lead to -/

variable (A) in
/-- Labels that meet `P` lead from one state to another. -/
def Leads (P : ε → Prop) (s t : σ) : Prop := ∃ es, (∀ e ∈ es, P e) ∧ A.run s es = some t

theorem Leads.refl {P : ε → Prop} (s : σ) : A.Leads P s s := ⟨[], by simp, rfl⟩

theorem Leads.of_step {P : ε → Prop} {s t : σ} {e : ε} (he : P e) (h : A.step s e = some t) :
    A.Leads P s t := ⟨[e], by simpa using he, by simp [h]⟩

theorem Leads.trans {P : ε → Prop} {s t u : σ} (h : A.Leads P s t) (h' : A.Leads P t u) :
    A.Leads P s u := by
  obtain ⟨es, hP, hes⟩ := h
  obtain ⟨fs, hP', hfs⟩ := h'
  refine ⟨es ++ fs, ?_, ?_⟩
  · intro e he
    cases List.mem_append.mp he with
    | inl he => exact hP e he
    | inr he => exact hP' e he
  · rw [run_append, hes, Option.bind_some, hfs]

theorem Leads.mono {P Q : ε → Prop} (hPQ : ∀ e, P e → Q e) {s t : σ} (h : A.Leads P s t) :
    A.Leads Q s t := by
  obtain ⟨es, hP, hes⟩ := h
  exact ⟨es, fun e he => hPQ e (hP e he), hes⟩

theorem Reachable.leads {P : ε → Prop} {s t : σ} (h : A.Reachable s) (hst : A.Leads P s t) :
    A.Reachable t := by
  obtain ⟨es, -, hes⟩ := hst
  exact h.run hes

/-- **Progress rule**: if out of every state with `I` that is not at rest some step
meeting `P` comes closer to rest and keeps `I`, such steps lead to rest. -/
theorem leads_to_rest {P : ε → Prop} {I : σ → Prop} (rank : σ → Nat)
    (hstep : ∀ s, I s → rank s ≠ 0 → ∃ e t, P e ∧ A.step s e = some t ∧ I t ∧ rank t < rank s)
    {s : σ} (h : I s) : ∃ t, A.Leads P s t ∧ I t ∧ rank t = 0 := by
  induction hn : rank s using Nat.strongRecOn generalizing s with
  | _ n ih =>
      by_cases hrest : rank s = 0
      · exact ⟨s, .refl s, h, hrest⟩
      · obtain ⟨e, t, he, hst, ht, hlt⟩ := hstep s h hrest
        obtain ⟨u, htu, hu, hzero⟩ := ih (rank t) (hn ▸ hlt) ht rfl
        exact ⟨u, (Leads.of_step he hst).trans htu, hu, hzero⟩

/-! ## runs whose steps meet a condition -/

variable (A) in
/-- Every step of the run from `s` along the labels meets `P` (a condition on
the label and on the state before the step). -/
def Along (P : σ → ε → Prop) : σ → List ε → Prop
  | _, [] => True
  | s, e :: es => P s e ∧ ∀ t, A.step s e = some t → Along P t es

/-- Whether a run meets a decidable condition can be evaluated. -/
instance decidableAlong {P : σ → ε → Prop} [∀ s e, Decidable (P s e)] :
    ∀ s es, Decidable (A.Along P s es)
  | _, [] => isTrue trivial
  | s, e :: es =>
      match h : A.step s e with
      | none => decidable_of_iff (P s e) (by simp [Along, h])
      | some t =>
          have : Decidable (A.Along P t es) := decidableAlong t es
          decidable_of_iff (P s e ∧ A.Along P t es) (by simp [Along, h])

/-- A step that meets the condition, before a run whose steps do. -/
theorem Along.cons {P : σ → ε → Prop} {s t : σ} {e : ε} {es : List ε} (hP : P s e)
    (he : A.step s e = some t) (h : A.Along P t es) : A.Along P s (e :: es) := by
  refine ⟨hP, ?_⟩
  intro u hu
  rw [he, Option.some.injEq] at hu
  exact hu ▸ h

theorem along_snoc {P : σ → ε → Prop} {s : σ} {es : List ε} {e : ε} :
    A.Along P s (es ++ [e]) ↔ A.Along P s es ∧ ∀ t, A.run s es = some t → P t e := by
  induction es generalizing s with
  | nil => simp [Along]
  | cons f fs ih =>
      simp only [List.cons_append, Along, ih, run_cons]
      cases h : A.step s f with
      | none => simp
      | some m => simp [and_assoc]

theorem Along.mono {P Q : σ → ε → Prop} (hPQ : ∀ s e, P s e → Q s e) {s : σ} {es : List ε}
    (h : A.Along P s es) : A.Along Q s es := by
  induction es generalizing s with
  | nil => trivial
  | cons e es ih => exact ⟨hPQ s e h.1, fun t ht => ih (h.2 t ht)⟩

/-- Conditions that agree in the reachable states agree along runs. -/
theorem along_congr {P Q : σ → ε → Prop} (hPQ : ∀ s e, A.Reachable s → (P s e ↔ Q s e)) {s : σ}
    {es : List ε} (hs : A.Reachable s) : A.Along P s es ↔ A.Along Q s es := by
  induction es generalizing s with
  | nil => exact Iff.rfl
  | cons e es ih =>
      refine and_congr (hPQ s e hs) (forall_congr' fun t => ?_)
      exact imp_congr_right fun ht => ih (hs.step ht)

/-- An invariant that the steps meeting `P` preserve holds all along such a run. -/
theorem Along.and_invariant {P : σ → ε → Prop} {I : σ → Prop}
    (hstep : ∀ s e t, I s → P s e → A.step s e = some t → I t) {s : σ} {es : List ε} (hI : I s)
    (h : A.Along P s es) : A.Along (fun s e => I s ∧ P s e) s es := by
  induction es generalizing s with
  | nil => trivial
  | cons e es ih =>
      refine ⟨⟨hI, h.1⟩, ?_⟩
      intro t ht
      exact ih (hstep s e t hI h.1 ht) (h.2 t ht)

/-- What holds at the start of a run and is kept by the steps meeting `P` holds at
the end of a run of such steps. -/
theorem Along.run_invariant {P : σ → ε → Prop} {I : σ → Prop}
    (hstep : ∀ s e t, I s → P s e → A.step s e = some t → I t) {s t : σ} {es : List ε} (hI : I s)
    (hes : A.run s es = some t) (hP : A.Along P s es) : I t := by
  refine A.run_induction (motive := fun es t => A.Along P s es → I t) (fun _ => hI) ?_ hes hP
  intro es e t u ht he ih hP
  have hPes := along_snoc.mp hP
  exact hstep t e u (ih hPes.1) (hPes.2 t ht) he

/-- Invariant rule for the runs whose steps meet `P`. -/
theorem Along.invariant {P : σ → ε → Prop} {I : σ → Prop}
    (hinit : ∀ s, A.init s → I s)
    (hstep : ∀ s e t, A.Reachable s → P s e → I s → A.step s e = some t → I t)
    {s t : σ} {es : List ε} (hs : A.init s) (hes : A.run s es = some t)
    (hP : A.Along P s es) : I t := by
  have hkept : ∀ s e t, A.Reachable s ∧ I s → P s e → A.step s e = some t →
      A.Reachable t ∧ I t := by
    intro s e t hs hP hst
    exact ⟨hs.1.step hst, hstep s e t hs.1 hP hs.2 hst⟩
  exact (hP.run_invariant hkept ⟨.init hs, hinit s hs⟩ hes).2

variable (A) in
/-- The step, if it can be taken, leads to a state with `I`. -/
def Keeps (I : σ → Prop) (s : σ) (e : ε) : Prop := ∀ t, A.step s e = some t → I t

/-- **Exactness rule**: if out of every reachable state with `I` exactly the steps
meeting `P` lead to one with `I` again, then exactly the runs whose steps meet
`P` never leave `I`. -/
theorem along_keeps_iff {P : σ → ε → Prop} {I : σ → Prop}
    (hexact : ∀ s e, A.Reachable s → I s → (A.Keeps I s e ↔ P s e)) {s : σ} {es : List ε}
    (hs : A.Reachable s) (hI : I s) : A.Along (A.Keeps I) s es ↔ A.Along P s es := by
  constructor
  · intro h
    have hboth : A.Along (fun s e => (A.Reachable s ∧ I s) ∧ A.Keeps I s e) s es := by
      refine h.and_invariant ?_ ⟨hs, hI⟩
      intro s e t hs hkeeps hstep
      exact ⟨hs.1.step hstep, hkeeps t hstep⟩
    exact hboth.mono fun s e hse => (hexact s e hse.1.1 hse.1.2).mp hse.2
  · intro h
    have hboth : A.Along (fun s e => (A.Reachable s ∧ I s) ∧ P s e) s es := by
      refine h.and_invariant ?_ ⟨hs, hI⟩
      intro s e t hs hP hstep
      exact ⟨hs.1.step hstep, (hexact s e hs.1 hs.2).mpr hP t hstep⟩
    exact hboth.mono fun s e hse => (hexact s e hse.1.1 hse.1.2).mpr hse.2

end Automaton
