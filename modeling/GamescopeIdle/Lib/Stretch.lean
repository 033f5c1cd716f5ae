import Mathlib.Data.List.SplitBy

/-!
# Lib.Stretch

The stretches of a sequence: it is cut (by `List.splitBy`) wherever two
neighbours are not near each other.  Neighbours in one stretch are near each
other, so a stretch can still drift; `Settled` says that none does, measured from
where each began.

* `origin` — where the last stretch began;
* `origin_concat`, `settled_concat` — both are determined record by record.
-/

namespace Stretch

variable {α : Type*} (near : α → α → Bool)

/-- Where the last stretch began. -/
def origin (l : List α) : Option α := (l.splitBy near).getLast?.bind List.head?

/-- Every record of the stretch is near its first. -/
def Steady : List α → Prop
  | [] => True
  | x :: xs => ∀ y ∈ xs, near x y = true

instance decidableSteady : DecidablePred (Steady near)
  | [] => isTrue trivial
  | x :: xs => inferInstanceAs (Decidable (∀ y ∈ xs, near x y = true))

/-- No stretch strays from where it began. -/
def Settled (l : List α) : Prop := ∀ stretch ∈ l.splitBy near, Steady near stretch

instance (l : List α) : Decidable (Settled near l) :=
  inferInstanceAs (Decidable (∀ stretch ∈ l.splitBy near, Steady near stretch))

/-- The record continues the last stretch. -/
def Continues (l : List α) (y : α) : Prop := ∃ p ∈ l.getLast?, near p y = true

instance (l : List α) (y : α) : Decidable (Continues near l y) :=
  decidable_of_iff (l.getLast?.any (near · y) = true) (by simp [Continues, Option.any_eq_true])

variable {near} {l : List α} {y : α}

/-! ## one more record -/

/-- A record that does not continue the last stretch begins one of its own. -/
theorem splitBy_concat_of_not (h : ¬ Continues near l y) :
    (l ++ [y]).splitBy near = l.splitBy near ++ [[y]] := by
  have hcut : ∀ x ∈ l.getLast?, near x y = false := by
    intro x hx
    exact Bool.eq_false_iff.mpr fun hnear => h ⟨x, hx, hnear⟩
  exact List.splitBy_append_cons [] hcut

/-- A record that continues the last stretch joins it, and leaves the others. -/
theorem splitBy_concat_of (h : Continues near l y) :
    ∃ before stretch, stretch ≠ [] ∧ l.splitBy near = before ++ [stretch] ∧
      (l ++ [y]).splitBy near = before ++ [stretch ++ [y]] := by
  obtain ⟨p, hp, hnear⟩ := h
  have hne : l ≠ [] := fun hnil => by simp [hnil] at hp
  obtain ⟨before, stretch, hsplit⟩ := List.eq_nil_or_concat' (l.splitBy near)
    |>.resolve_left (List.splitBy_ne_nil.mpr hne)
  obtain ⟨hflat, hnil, hchain, hcuts⟩ := List.splitBy_eq_iff.mp hsplit
  have hstretch : stretch ≠ [] := fun h => hnil (by simp [h])
  have hlast : p ∈ stretch.getLast? := by
    rw [hflat, List.flatten_append, List.flatten_singleton,
      List.getLast?_append_of_ne_nil _ hstretch] at hp
    exact hp
  refine ⟨before, stretch, hstretch, hsplit, List.splitBy_eq_iff.mpr ⟨?_, ?_, ?_, ?_⟩⟩
  · simp [hflat]
  · intro hmem
    exact hnil (by simpa [hstretch] using hmem)
  · intro m hm
    cases List.mem_append.mp hm with
    | inl hbefore => exact hchain m (by simp [hbefore])
    | inr hlastOne =>
        obtain rfl : m = stretch ++ [y] := List.mem_singleton.mp hlastOne
        have hold : stretch.IsChain fun a b => near a b = true := hchain stretch (by simp)
        refine List.isChain_append.mpr ⟨hold, List.isChain_singleton y, ?_⟩
        intro a ha b hb
        obtain rfl : a = p := Option.mem_unique ha hlast
        obtain rfl : y = b := by simpa using hb
        exact hnear
  · rw [List.isChain_append] at hcuts ⊢
    refine ⟨hcuts.1, List.isChain_singleton _, ?_⟩
    intro a ha b hb
    obtain rfl : stretch ++ [y] = b := by simpa using hb
    obtain ⟨hane, _, hfalse⟩ := hcuts.2.2 a ha stretch (by simp)
    refine ⟨hane, by simp, ?_⟩
    rw [List.head_append_of_ne_nil hstretch]
    exact hfalse

theorem origin_concat : origin near (l ++ [y]) = if Continues near l y then origin near l else some y := by
  by_cases h : Continues near l y
  · obtain ⟨before, stretch, hne, hold, hnew⟩ := splitBy_concat_of h
    obtain ⟨x, xs, rfl⟩ := List.exists_cons_of_ne_nil hne
    simp [origin, hold, hnew, h]
  · simp [origin, splitBy_concat_of_not h, h]

/-- A history stays settled when a record that continues the last stretch is near
its first. -/
theorem settled_concat :
    Settled near (l ++ [y]) ↔
      Settled near l ∧ (Continues near l y → ∀ x ∈ origin near l, near x y = true) := by
  by_cases h : Continues near l y
  · obtain ⟨before, stretch, hne, hold, hnew⟩ := splitBy_concat_of h
    obtain ⟨x, xs, rfl⟩ := List.exists_cons_of_ne_nil hne
    have horigin : origin near l = some x := by simp [origin, hold]
    have hsteady : Steady near (x :: (xs ++ [y])) ↔ Steady near (x :: xs) ∧ near x y = true := by
      simp [Steady, or_imp, forall_and]
    simp [Settled, hold, hnew, h, horigin, hsteady, or_imp, forall_and, and_assoc]
  · have hsingle : Steady near [y] := by simp [Steady]
    simp [Settled, splitBy_concat_of_not h, h, hsingle, or_imp, forall_and]

@[simp] theorem settled_nil : Settled near [] := by simp [Settled]

end Stretch
