import GamescopeIdle.Lib.Automaton
import Mathlib.Data.Finset.Basic
import Mathlib.Data.List.InsertIdx
import Mathlib.Data.List.Nodup

/-!
# Lib.Registry

A scanner that starts one task for each path it finds, with a shared set of the
paths that have been dealt with.  The scanner takes up a path, tests whether it is
in the set, and then passes it over, records it, or inserts it and starts a task;
a task removes its path when it ends.  The scanner and the tasks are interleaved
in any way, and the test, the insertion and the start are three steps.

The scanner holds a `K` for the path it has taken up, and a task is started with a
`J`.

* `Registered` — the paths in the set are those of the tasks, and of what was recorded;
* `consistent_of_reachable` — it holds in every reachable state;
* `free_after_exit` — the end of a task leaves its path free.
-/

universe u v w

namespace Registry

/-- Where the scanner is. -/
inductive Scanner (P : Type u) (K : Type v) (J : Type w) where
  | idle
  /-- It has taken up a path. -/
  | taken (p : P) (k : K)
  /-- It has seen that the path is not in the set. -/
  | tested (p : P) (k : K)
  /-- It has inserted the path and is about to start its task. -/
  | inserted (p : P) (j : J)
deriving DecidableEq, Repr

end Registry

open Registry in
/-- The set of paths, the tasks and the scanner. -/
structure Registry (P : Type u) (K : Type v) (J : Type w) where
  watched : Finset P
  /-- The paths inserted without starting a task; nothing reads this field. -/
  recorded : Finset P
  /-- The tasks that have been started and have not removed their paths. -/
  tasks : List (P × J)
  scanner : Scanner P K J

namespace Registry

variable {P : Type u} {K : Type v} {J : Type w}

/-- Nothing has been scanned. -/
def empty : Registry P K J := { watched := ∅, recorded := ∅, tasks := [], scanner := .idle }

/-! ## the set and the tasks -/

/-- Some task has the path. -/
def HasTask (r : Registry P K J) (p : P) : Prop := p ∈ r.tasks.map Prod.fst

/-- The scanner is about to start a task for the path. -/
def Starting (r : Registry P K J) (p : P) : Prop := ∃ j, r.scanner = .inserted p j

/-- The set of paths describes the tasks. -/
structure Registered (r : Registry P K J) : Prop where
  /-- A path has at most one task. -/
  atMostOne : (r.tasks.map Prod.fst).Nodup
  /-- The path of a task is in the set. -/
  watched_of_task : ∀ p, r.HasTask p → p ∈ r.watched
  /-- A path in the set has a task, or is about to have one, or was recorded. -/
  accounted : ∀ p ∈ r.watched, r.HasTask p ∨ r.Starting p ∨ p ∈ r.recorded

/-- `Registered`, with what the scanner knows of the path it has in hand. -/
structure Consistent (r : Registry P K J) : Prop extends Registered r where
  watched_of_recorded : ∀ p ∈ r.recorded, p ∈ r.watched
  not_recorded_of_task : ∀ p, r.HasTask p → p ∉ r.recorded
  tested : ∀ p k, r.scanner = .tested p k → p ∉ r.watched
  inserted : ∀ p j, r.scanner = .inserted p j → p ∈ r.watched ∧ ¬ r.HasTask p ∧ p ∉ r.recorded

theorem consistent_empty : Consistent (empty : Registry P K J) := by
  constructor
  case toRegistered => constructor <;> simp [empty, HasTask]
  all_goals simp [empty, HasTask]

/-- Moving the scanner on, without a task in its hand. -/
theorem Consistent.scan {r : Registry P K J} (hr : Consistent r) {scanner : Scanner P K J}
    (hold : ∀ p j, r.scanner ≠ .inserted p j) (hnew : ∀ p j, scanner ≠ .inserted p j)
    (htested : ∀ p k, scanner = .tested p k → p ∉ r.watched) :
    Consistent { r with scanner := scanner } := by
  refine ⟨⟨hr.atMostOne, hr.watched_of_task, ?_⟩, hr.watched_of_recorded, hr.not_recorded_of_task,
    htested, ?_⟩
  · intro p hp
    obtain htask | ⟨j, hj⟩ | hrec := hr.accounted p hp
    · exact .inl htask
    · exact absurd hj (hold p j)
    · exact .inr (.inr hrec)
  · intro p j h
    exact absurd h (hnew p j)

/-! ## steps -/

variable [DecidableEq P]

/-- A step of the scanner, or the end of a task. -/
inductive Label (P : Type u) (K : Type v) (J : Type w) where
  | take (p : P) (k : K)
  | test
  | skip
  | record
  | insert (j : J)
  | start
  /-- The task at a place in the list removes its path and returns. -/
  | exit (i : Nat)

def step (r : Registry P K J) : Label P K J → Option (Registry P K J)
  | .take p k =>
      match r.scanner with
      | .idle => some { r with scanner := .taken p k }
      | _ => none
  | .test =>
      match r.scanner with
      | .taken p k => some { r with scanner := if p ∈ r.watched then .idle else .tested p k }
      | _ => none
  | .skip =>
      match r.scanner with
      | .tested _ _ => some { r with scanner := .idle }
      | _ => none
  | .record =>
      match r.scanner with
      | .tested p _ =>
          some { r with
            watched := insert p r.watched, recorded := insert p r.recorded, scanner := .idle }
      | _ => none
  | .insert j =>
      match r.scanner with
      | .tested p _ => some { r with watched := insert p r.watched, scanner := .inserted p j }
      | _ => none
  | .start =>
      match r.scanner with
      | .inserted p j => some { r with tasks := (p, j) :: r.tasks, scanner := .idle }
      | _ => none
  | .exit i =>
      r.tasks[i]?.map fun (p, _) =>
        { r with tasks := r.tasks.eraseIdx i, watched := r.watched.erase p }

/-- The scanner and the tasks, from a start with an empty set. -/
def automaton : Automaton (Registry P K J) (Label P K J) where
  init r := r = empty
  step := step

/-- What a step does. -/
inductive Moved (r : Registry P K J) : Label P K J → Registry P K J → Prop
  | took {p k} (hscanner : r.scanner = .idle) : Moved r (.take p k) { r with scanner := .taken p k }
  | present {p k} (hscanner : r.scanner = .taken p k) (hp : p ∈ r.watched) :
      Moved r .test { r with scanner := .idle }
  | absent {p k} (hscanner : r.scanner = .taken p k) (hp : p ∉ r.watched) :
      Moved r .test { r with scanner := .tested p k }
  | skipped {p k} (hscanner : r.scanner = .tested p k) : Moved r .skip { r with scanner := .idle }
  | recorded {p k} (hscanner : r.scanner = .tested p k) :
      Moved r .record { r with
        watched := insert p r.watched, recorded := insert p r.recorded, scanner := .idle }
  | inserted {p k j} (hscanner : r.scanner = .tested p k) :
      Moved r (.insert j) { r with watched := insert p r.watched, scanner := .inserted p j }
  | started {p j} (hscanner : r.scanner = .inserted p j) :
      Moved r .start { r with tasks := (p, j) :: r.tasks, scanner := .idle }
  | exited {i p j} (htask : r.tasks[i]? = some (p, j)) :
      Moved r (.exit i) { r with tasks := r.tasks.eraseIdx i, watched := r.watched.erase p }

theorem step_moved {r r' : Registry P K J} {l : Label P K J} (h : r.step l = some r') :
    Moved r l r' := by
  cases l with
  | exit i =>
      obtain ⟨⟨p, j⟩, htask, rfl⟩ := Option.map_eq_some_iff.mp h
      exact .exited htask
  | test =>
      cases hscanner : r.scanner with
      | taken p k =>
          simp only [step, hscanner, Option.some.injEq] at h
          by_cases hp : p ∈ r.watched
          · rw [if_pos hp] at h
            exact h ▸ .present hscanner hp
          · rw [if_neg hp] at h
            exact h ▸ .absent hscanner hp
      | _ => simp [step, hscanner] at h
  | take p k =>
      cases hscanner : r.scanner with
      | idle =>
          simp only [step, hscanner, Option.some.injEq] at h
          exact h ▸ .took hscanner
      | _ => simp [step, hscanner] at h
  | skip =>
      cases hscanner : r.scanner with
      | tested p k =>
          simp only [step, hscanner, Option.some.injEq] at h
          exact h ▸ .skipped hscanner
      | _ => simp [step, hscanner] at h
  | record =>
      cases hscanner : r.scanner with
      | tested p k =>
          simp only [step, hscanner, Option.some.injEq] at h
          exact h ▸ .recorded hscanner
      | _ => simp [step, hscanner] at h
  | insert j =>
      cases hscanner : r.scanner with
      | tested p k =>
          simp only [step, hscanner, Option.some.injEq] at h
          exact h ▸ .inserted hscanner
      | _ => simp [step, hscanner] at h
  | start =>
      cases hscanner : r.scanner with
      | inserted p j =>
          simp only [step, hscanner, Option.some.injEq] at h
          exact h ▸ .started hscanner
      | _ => simp [step, hscanner] at h

/-- What is left of the tasks when one of them has ended. -/
theorem mem_map_eraseIdx {tasks : List (P × J)} (hnodup : (tasks.map Prod.fst).Nodup) {i : Nat}
    {p : P} {j : J} (htask : tasks[i]? = some (p, j)) (q : P) :
    q ∈ (tasks.eraseIdx i).map Prod.fst ↔ q ≠ p ∧ q ∈ tasks.map Prod.fst := by
  have hpath : (tasks.map Prod.fst)[i]? = some p := by simp [htask]
  obtain ⟨hi, hp⟩ := List.getElem?_eq_some_iff.mp hpath
  rw [← List.eraseIdx_map, ← hnodup.erase_getElem i hi, hp, hnodup.mem_erase_iff]

/-- Every step keeps the set consistent with the tasks. -/
theorem consistent_step {r r' : Registry P K J} {l : Label P K J} (hr : Consistent r)
    (h : r.step l = some r') : Consistent r' := by
  cases step_moved h with
  | took hscanner => exact hr.scan (by simp [hscanner]) (by simp) (by simp)
  | present hscanner hp => exact hr.scan (by simp [hscanner]) (by simp) (by simp)
  | absent hscanner hp => exact hr.scan (by simp [hscanner]) (by simp) (by simpa using hp)
  | skipped hscanner => exact hr.scan (by simp [hscanner]) (by simp) (by simp)
  | @recorded p k hscanner =>
      -- the path was absent, so it had no task, and it is recorded now
      obtain ⟨⟨hone, htasks, haccounted⟩, hrecorded, hapart, htested, -⟩ := hr
      have hfree : p ∉ r.watched := htested p k hscanner
      have hnotask : ¬ r.HasTask p := fun htask => hfree (htasks p htask)
      refine ⟨⟨hone, ?_, ?_⟩, ?_, ?_, ?_, ?_⟩
      all_goals grind [HasTask, Starting]
  | @inserted p k j hscanner =>
      -- the path was absent, so it neither had a task nor was recorded
      obtain ⟨⟨hone, htasks, haccounted⟩, hrecorded, hapart, htested, -⟩ := hr
      have hfree : p ∉ r.watched := htested p k hscanner
      have hnotask : ¬ r.HasTask p := fun htask => hfree (htasks p htask)
      refine ⟨⟨hone, ?_, ?_⟩, ?_, ?_, ?_, ?_⟩
      all_goals grind [HasTask, Starting]
  | @started p j hscanner =>
      obtain ⟨⟨hone, htasks, haccounted⟩, hrecorded, hapart, -, hinserted⟩ := hr
      obtain ⟨hwatched, hnotask, hnotrec⟩ := hinserted p j hscanner
      have hone' : ((p, j) :: r.tasks).map Prod.fst = p :: r.tasks.map Prod.fst := rfl
      refine ⟨⟨hone' ▸ List.nodup_cons.mpr ⟨hnotask, hone⟩, ?_, ?_⟩, hrecorded, ?_, ?_, ?_⟩
      all_goals grind [HasTask, Starting]
  | @exited i p j htask =>
      -- no other task has the path, so removing it strands none
      obtain ⟨⟨hone, htasks, haccounted⟩, hrecorded, hapart, htested, hinserted⟩ := hr
      have hleft := mem_map_eraseIdx hone htask
      have hp : r.HasTask p := List.mem_map.mpr ⟨(p, j), List.mem_of_getElem? htask, rfl⟩
      have hone' : ((r.tasks.eraseIdx i).map Prod.fst).Nodup := by
        rw [← List.eraseIdx_map]
        exact hone.eraseIdx i
      refine ⟨⟨hone', ?_, ?_⟩, ?_, ?_, ?_, ?_⟩
      all_goals grind [HasTask, Starting]

/-- **Registry invariant**: the set is consistent with the tasks in every reachable
state. -/
theorem consistent_of_reachable {r : Registry P K J} (h : automaton.Reachable r) : Consistent r := by
  refine h.invariant ?_ ?_
  · rintro r rfl
    exact consistent_empty
  · intro r l r' _ hr hstep
    exact consistent_step hr hstep

/-- The end of a task leaves its path free. -/
theorem free_after_exit {r r' : Registry P K J} (hr : Consistent r) {i : Nat} {p : P} {j : J}
    (htask : r.tasks[i]? = some (p, j)) (h : r.step (.exit i) = some r') :
    p ∉ r'.watched ∧ ¬ r'.HasTask p := by
  cases step_moved h with
  | @exited _ q j' htask' =>
      obtain ⟨rfl, rfl⟩ : q = p ∧ j' = j := by simpa [htask] using htask'.symm
      have hleft := mem_map_eraseIdx hr.atMostOne htask q
      exact ⟨by simp, fun hq => (hleft.mp hq).1 rfl⟩

/-- What is recorded was in the scanner's hand. -/
theorem recorded_of_step {r r' : Registry P K J} {l : Label P K J} (h : r.step l = some r') {p : P}
    (hp : p ∈ r'.recorded) : p ∈ r.recorded ∨ l = .record ∧ ∃ k, r.scanner = .tested p k := by
  cases step_moved h with
  | @recorded q k hscanner =>
      cases Finset.mem_insert.mp hp with
      | inl hnew => exact .inr ⟨rfl, k, hnew ▸ hscanner⟩
      | inr hold => exact .inl hold
  | _ => exact .inl hp

end Registry
