/-!
# Lib.Timespec

Clock readings as the operating system represents them: seconds in a signed 64-bit
number, here never negative, and nanoseconds below a second.  Adding a duration
carries from the nanoseconds into the seconds, and fails where the seconds overflow;
`checkedAdd_eq_some_iff` says what that is in nanoseconds.

This module depends only on the Lean 4 core library.
-/

/-- A clock reading. -/
structure Timespec where
  secs : Nat
  nanos : Nat
  secs_lt : secs < 9223372036854775808
  nanos_lt : nanos < 1000000000
deriving DecidableEq, Repr

namespace Timespec

/-- The first number of nanoseconds that is no clock reading. -/
def limit : Nat := 9223372036854775808 * 1000000000

/-- Nanoseconds since the clock's origin. -/
def toNanos (t : Timespec) : Nat := t.secs * 1000000000 + t.nanos

/-- The clock reading after a number of nanoseconds, if there is one. -/
def ofNanos? (n : Nat) : Option Timespec :=
  if h : n / 1000000000 < 9223372036854775808 then
    some { secs := n / 1000000000, nanos := n % 1000000000, secs_lt := h, nanos_lt := Nat.mod_lt n (by decide) }
  else none

/-- Seconds that fit. -/
def checkedSecs (secs : Nat) : Option { s : Nat // s < 9223372036854775808 } :=
  if h : secs < 9223372036854775808 then some ⟨secs, h⟩ else none

/-- Add a duration of whole seconds and nanoseconds below a second: first the seconds,
then the nanoseconds with their carry. -/
def checkedAdd (t : Timespec) (secs nanos : Nat) : Option Timespec :=
  (checkedSecs (t.secs + secs)).bind fun s =>
    if h : t.nanos + nanos < 1000000000 then
      some { secs := s.1, nanos := t.nanos + nanos, secs_lt := s.2, nanos_lt := h }
    else
      (checkedSecs (s.1 + 1)).map fun s =>
        { secs := s.1, nanos := (t.nanos + nanos - 1000000000) % 1000000000
          secs_lt := s.2, nanos_lt := Nat.mod_lt _ (by decide) }

theorem toNanos_lt (t : Timespec) : t.toNanos < limit := by
  have hsecs := t.secs_lt
  have hnanos := t.nanos_lt
  unfold toNanos limit
  omega

theorem toNanos_inj {t u : Timespec} : t.toNanos = u.toNanos ↔ t = u := by
  constructor
  · intro h
    obtain ⟨ts, tn, _, htn⟩ := t
    obtain ⟨us, un, _, hun⟩ := u
    simp only [toNanos] at h
    obtain ⟨rfl, rfl⟩ : ts = us ∧ tn = un := by omega
    rfl
  · intro h
    rw [h]

theorem ofNanos?_eq_some_iff {n : Nat} {t : Timespec} : ofNanos? n = some t ↔ t.toNanos = n := by
  unfold ofNanos?
  split
  · next h =>
      rw [Option.some.injEq, ← toNanos_inj]
      simp only [toNanos]
      omega
  · next h =>
      have hlt := t.toNanos_lt
      refine iff_of_false nofun fun heq => ?_
      unfold limit at hlt
      omega

theorem exists_toNanos_eq {n : Nat} (h : n < limit) : ∃ t : Timespec, t.toNanos = n := by
  have hsecs : n / 1000000000 < 9223372036854775808 := by
    unfold limit at h
    omega
  exact ⟨_, ofNanos?_eq_some_iff.mp (dif_pos hsecs)⟩

/-- **Addition is exact**: it yields the clock reading that many nanoseconds later, and
fails where there is none. -/
theorem checkedAdd_eq_some_iff {t u : Timespec} {secs nanos : Nat} (h : nanos < 1000000000) :
    t.checkedAdd secs nanos = some u ↔ u.toNanos = t.toNanos + (secs * 1000000000 + nanos) := by
  have hlt := u.toNanos_lt
  have hnanos := t.nanos_lt
  unfold limit at hlt
  unfold checkedAdd checkedSecs
  by_cases hsecs : t.secs + secs < 9223372036854775808
  · by_cases hcarry : t.nanos + nanos < 1000000000
    · simp only [hsecs, hcarry, dite_true, Option.bind_some, Option.some.injEq, ← toNanos_inj]
      simp only [toNanos]
      omega
    · by_cases hmore : t.secs + secs + 1 < 9223372036854775808
      · simp only [hsecs, hcarry, hmore, dite_true, dite_false, Option.bind_some, Option.map_some,
          Option.some.injEq, ← toNanos_inj]
        simp only [toNanos]
        omega
      · simp only [hsecs, hcarry, hmore, dite_true, dite_false, Option.bind_some, Option.map_none]
        refine iff_of_false nofun fun heq => ?_
        simp only [toNanos] at heq hlt
        omega
  · simp only [hsecs, dite_false, Option.bind_none]
    refine iff_of_false nofun fun heq => ?_
    simp only [toNanos] at heq hlt
    omega

end Timespec
