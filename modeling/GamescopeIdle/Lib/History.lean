import Mathlib.Data.List.Induction

/-!
# Lib.History

Past-time operators over a finite history that grows at its end: a list of
records, the oldest first.  A statement about a record may mention the records
before it.

* `Each P` — every record meets `P` in view of its past;
* `Since P Q` — some record met `P` in view of its past, and every later one `Q`.

Both are determined step by step (`each_concat`, `since_concat`), which is how
an invariant about the history of a run is carried along.
-/

namespace History

variable {α : Type*}

/-- The two places a record can have in a history that has just grown. -/
theorem concat_eq_append_cons {l pre post : List α} {x y : α} :
    l ++ [x] = pre ++ y :: post ↔
      (l = pre ∧ x = y ∧ post = []) ∨ ∃ post', post = post' ++ [x] ∧ l = pre ++ y :: post' := by
  cases post using List.reverseRecOn with
  | nil => simp
  | append_singleton post' z =>
      constructor
      · intro h
        have hsplit : l ++ [x] = (pre ++ y :: post') ++ [z] := by simpa using h
        obtain ⟨hl, hx⟩ := List.append_inj' hsplit rfl
        rw [List.singleton_inj] at hx
        exact .inr ⟨post', by rw [hx], hl⟩
      · intro h
        cases h with
        | inl h => simp at h
        | inr h =>
            obtain ⟨post'', hpost, hl⟩ := h
            obtain ⟨hpost', hz⟩ := List.append_inj' hpost rfl
            rw [List.singleton_inj] at hz
            simp [hl, hpost', hz]

/-- Two places in one history: they are the same, or one is before the other. -/
theorem append_cons_cases {pre pre' post post' : List α} {x y : α}
    (h : pre ++ x :: post = pre' ++ y :: post') :
    (pre = pre' ∧ x = y ∧ post = post') ∨
      (∃ mid, pre' = pre ++ x :: mid ∧ post = mid ++ y :: post') ∨
      ∃ mid, pre = pre' ++ y :: mid ∧ post' = mid ++ x :: post := by
  cases List.append_eq_append_iff.mp h with
  | inl h =>
      obtain ⟨mid, hpre, hpost⟩ := h
      cases mid with
      | nil =>
          obtain ⟨hxy, hrest⟩ := List.cons.inj hpost
          exact .inl ⟨by simp [hpre], hxy, hrest⟩
      | cons z mid =>
          obtain ⟨rfl, hrest⟩ := List.cons.inj hpost
          exact .inr (.inl ⟨mid, hpre, hrest⟩)
  | inr h =>
      obtain ⟨mid, hpre, hpost⟩ := h
      cases mid with
      | nil =>
          obtain ⟨hxy, hrest⟩ := List.cons.inj hpost
          exact .inl ⟨by simp [hpre], hxy.symm, hrest.symm⟩
      | cons z mid =>
          obtain ⟨rfl, hrest⟩ := List.cons.inj hpost
          exact .inr (.inr ⟨mid, hpre, hrest⟩)

/-- Every record meets `P` in view of its past. -/
def Each (P : List α → α → Prop) (l : List α) : Prop :=
  ∀ past x future, l = past ++ x :: future → P past x

@[simp] theorem each_nil (P : List α → α → Prop) : Each P [] := by
  intro past x future h
  simp at h

theorem each_concat {P : List α → α → Prop} {l : List α} {x : α} :
    Each P (l ++ [x]) ↔ Each P l ∧ P l x := by
  constructor
  · intro h
    constructor
    · intro past y future hl
      exact h past y (future ++ [x]) (by simp [hl])
    · exact h l x [] rfl
  · intro h past y future hl
    cases concat_eq_append_cons.mp hl with
    | inl hlast =>
        obtain ⟨rfl, rfl, -⟩ := hlast
        exact h.2
    | inr hbefore =>
        obtain ⟨future', -, hl'⟩ := hbefore
        exact h.1 past y future' hl'

/-- A record that meets `P` in view of its past, and only `Q` since. -/
def Since (P : List α → α → Prop) (Q : α → Prop) (l : List α) : Prop :=
  ∃ pre x post, l = pre ++ x :: post ∧ P pre x ∧ ∀ y ∈ post, Q y

@[simp] theorem not_since_nil (P : List α → α → Prop) (Q : α → Prop) : ¬ Since P Q [] := by
  intro h
  obtain ⟨pre, x, post, hl, -⟩ := h
  simp at hl

theorem since_concat {P : List α → α → Prop} {Q : α → Prop} {l : List α} {x : α} :
    Since P Q (l ++ [x]) ↔ P l x ∨ (Since P Q l ∧ Q x) := by
  constructor
  · intro h
    obtain ⟨pre, y, post, hl, hP, hQ⟩ := h
    cases concat_eq_append_cons.mp hl with
    | inl hlast =>
        obtain ⟨rfl, rfl, -⟩ := hlast
        exact .inl hP
    | inr hbefore =>
        obtain ⟨post', rfl, hl'⟩ := hbefore
        have hkept : Since P Q l := ⟨pre, y, post', hl', hP, fun z hz => hQ z (by simp [hz])⟩
        exact .inr ⟨hkept, hQ x (by simp)⟩
  · intro h
    cases h with
    | inl hP => exact ⟨l, x, [], rfl, hP, by simp⟩
    | inr h =>
        obtain ⟨⟨pre, y, post, hl, hP, hQ⟩, hx⟩ := h
        have hpost : ∀ z ∈ post ++ [x], Q z := by
          intro z hz
          cases List.mem_append.mp hz with
          | inl hz => exact hQ z hz
          | inr hz => exact List.mem_singleton.mp hz ▸ hx
        exact ⟨pre, y, post ++ [x], by simp [hl], hP, hpost⟩

theorem Since.mono {P P' : List α → α → Prop} {Q : α → Prop} (hP : ∀ past x, P past x → P' past x)
    {l : List α} (h : Since P Q l) : Since P' Q l := by
  obtain ⟨pre, x, post, hl, hx, hQ⟩ := h
  exact ⟨pre, x, post, hl, hP pre x hx, hQ⟩

end History
