import GamescopeIdle.Lib.Automaton

/-!
# Lib.Beside

Two automata side by side, in any interleaving, where the first may look at the
second: what it sees becomes part of its label.

Each half of a run is a run of that half alone (`run_snd`, `reachable_fst`), so
what is known of the parts is known of the whole.
-/

namespace Automaton

variable {σ τ ε φ : Type*}

/-- `A` beside `B`, where `see` is what `A` sees of `B`. -/
def beside (A : Automaton σ ε) (B : Automaton τ φ) (see : τ → ε → ε) :
    Automaton (σ × τ) (ε ⊕ φ) where
  init s := A.init s.1 ∧ B.init s.2
  step s
    | .inl e => (A.step s.1 (see s.2 e)).map fun t => (t, s.2)
    | .inr f => (B.step s.2 f).map fun t => (s.1, t)

variable {A : Automaton σ ε} {B : Automaton τ φ} {see : τ → ε → ε}

/-- Everything one step can do: one half moves, and the other stays. -/
inductive BesideMoved (A : Automaton σ ε) (B : Automaton τ φ) (see : τ → ε → ε) (s : σ × τ) :
    ε ⊕ φ → σ × τ → Prop
  | left {e : ε} {t : σ} (h : A.step s.1 (see s.2 e) = some t) :
      BesideMoved A B see s (.inl e) (t, s.2)
  | right {f : φ} {t : τ} (h : B.step s.2 f = some t) : BesideMoved A B see s (.inr f) (s.1, t)

theorem beside_moved {s t : σ × τ} {l : ε ⊕ φ} (h : (A.beside B see).step s l = some t) :
    BesideMoved A B see s l t := by
  cases l with
  | inl e =>
      obtain ⟨u, hu, rfl⟩ := Option.map_eq_some_iff.mp h
      exact .left hu
  | inr f =>
      obtain ⟨u, hu, rfl⟩ := Option.map_eq_some_iff.mp h
      exact .right hu

theorem reachable_fst {s : σ × τ} (h : (A.beside B see).Reachable s) : A.Reachable s.1 := by
  have hinit : ∀ s, (A.beside B see).init s → A.init s.1 := fun s hs => hs.1
  refine h.simulate Prod.fst hinit ?_
  intro s l t hstep
  cases beside_moved hstep with
  | left h => exact .inr ⟨_, h⟩
  | right => exact .inl rfl

/-- The labels of the second half. -/
def rights (ls : List (ε ⊕ φ)) : List φ := ls.filterMap Sum.getRight?

theorem rights_append (ls ls' : List (ε ⊕ φ)) : rights (ls ++ ls') = rights ls ++ rights ls' :=
  List.filterMap_append

/-- The second half of a run is a run of the second automaton. -/
theorem run_snd {s t : σ × τ} {ls : List (ε ⊕ φ)} (h : (A.beside B see).run s ls = some t) :
    B.run s.2 (rights ls) = some t.2 := by
  refine (A.beside B see).run_induction (motive := fun ls t => B.run s.2 (rights ls) = some t.2)
    rfl ?_ h
  intro ls l t u _ hstep ih
  rw [rights_append]
  cases beside_moved hstep with
  | left =>
      rw [show rights [Sum.inl _] = ([] : List φ) from rfl, List.append_nil]
      exact ih
  | right hf => exact B.run_snoc_eq_some.mpr ⟨_, ih, hf⟩

end Automaton
