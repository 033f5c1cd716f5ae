import GamescopeIdle.Lib.Automaton
import GamescopeIdle.Lib.History
import Mathlib.Algebra.Group.Nat.Defs

/-!
# Lib.Backoff

A loop that tries something again and again and sleeps in between, each time twice
as long up to a bound, until a success makes the next sleep short again.

Any automaton with a clock can have such a loop in it: `Retrying` says which of its
steps are the loop's, and `paced` adds what the loop itself keeps, the length of
its next sleep and when the present one ends.

* `onPace_of_reachable` — the invariant; `paced_tries`, `paced_sleeps` and
  `paced_window` are what it says of every run: how far apart the attempts are, how
  long each sleep is, and how many attempts any stretch of time can hold;
* `leads_paced`, `wakeAt_le` — only the end of a sleep has to wait, and not for longer
  than the bound.
-/

universe u v

/-! ## the sleeps -/

/-- The sleeps of a loop that retries: the first one and the longest. -/
structure Backoff where
  first : Nat
  longest : Nat
  first_pos : 0 < first
  first_le : first ≤ longest

namespace Backoff

/-- The sleep after one of length `d`. -/
def next (p : Backoff) (d : Nat) : Nat := min (d * 2) p.longest

/-- The sleep after `n` others. -/
def sleep (p : Backoff) : Nat → Nat
  | 0 => p.first
  | n + 1 => p.next (p.sleep n)

variable (p : Backoff)

/-- The sleeps double until they reach the bound. -/
theorem sleep_eq (n : Nat) : p.sleep n = min (p.first * 2 ^ n) p.longest := by
  induction n with
  | zero => simp [sleep, Nat.min_eq_left p.first_le]
  | succ n ih =>
      have hdouble : p.first * 2 ^ (n + 1) = p.first * 2 ^ n * 2 := by
        rw [Nat.pow_succ, Nat.mul_assoc]
      rw [sleep, next, ih, hdouble]
      omega

theorem first_le_sleep (n : Nat) : p.first ≤ p.sleep n := by
  rw [sleep_eq]
  exact Nat.le_min.mpr ⟨Nat.le_mul_of_pos_right _ (Nat.two_pow_pos n), p.first_le⟩

theorem sleep_le_longest (n : Nat) : p.sleep n ≤ p.longest := by
  rw [sleep_eq]
  exact Nat.min_le_right _ _

/-! ## the log -/

/-- What the loop has done, and when. -/
inductive Entry where
  | tried (t : Nat)
  /-- The next sleep is short again. -/
  | reset (t : Nat)
  | slept (t d : Nat)
deriving DecidableEq, Repr

def Entry.time : Entry → Nat
  | tried t | reset t | slept t _ => t

/-- The sleeps since the last reset. -/
def sleeps (l : List Entry) : Nat :=
  l.foldl (fun n e =>
    match e with
    | .tried _ => n
    | .reset _ => 0
    | .slept _ _ => n + 1) 0

@[simp] theorem sleeps_nil : sleeps [] = 0 := rfl

@[simp] theorem sleeps_tried (l : List Entry) (t : Nat) : sleeps (l ++ [.tried t]) = sleeps l := by
  simp [sleeps]

@[simp] theorem sleeps_reset (l : List Entry) (t : Nat) : sleeps (l ++ [.reset t]) = 0 := by
  simp [sleeps]

@[simp] theorem sleeps_slept (l : List Entry) (t d : Nat) :
    sleeps (l ++ [.slept t d]) = sleeps l + 1 := by
  simp [sleeps]

/-- What holds of every entry, in view of those before it. -/
structure Entry.Paced (p : Backoff) (past : List Entry) (e : Entry) : Prop where
  later : ∀ e' ∈ past, e'.time ≤ e.time
  /-- A sleep is slept in full. -/
  awake : ∀ pre t d, past = pre ++ [.slept t d] → t + d ≤ e.time
  sleep : ∀ t d, e = .slept t d → d = p.sleep (sleeps past)
  /-- There is a sleep before every attempt but the first. -/
  apart : ∀ t, e = .tried t → past = [] ∨ ∃ pre t' d, past = pre ++ [.slept t' d]

/-! ## the attempts are apart -/

variable {p : Backoff} {l : List Entry}

open History (Each)

/-- Everything before an attempt is at least the shortest sleep before it. -/
theorem tries_apart (h : Each (Entry.Paced p) l) {pre post : List Entry} {t : Nat}
    (hl : l = pre ++ .tried t :: post) {e : Entry} (he : e ∈ pre) : e.time + p.first ≤ t := by
  have hpaced := h pre (.tried t) post hl
  cases hpaced.apart t rfl with
  | inl hnil => simp [hnil] at he
  | inr hslept =>
      obtain ⟨before, t', d, rfl⟩ := hslept
      have hend : t' + d ≤ t := hpaced.awake before t' d rfl
      have hsleep : Entry.Paced p before (.slept t' d) :=
        h before (.slept t' d) (.tried t :: post) (by simp [hl])
      have hd : d = p.sleep (sleeps before) := hsleep.sleep t' d rfl
      have hfirst : p.first ≤ d := hd ▸ p.first_le_sleep _
      have htime : e.time ≤ t' := by
        cases List.mem_append.mp he with
        | inl he => exact hsleep.later e he
        | inr he => rw [List.mem_singleton.mp he]; exact Nat.le_refl t'
      omega

/-- Nothing is done before a sleep is over. -/
theorem sleeps_in_full (h : Each (Entry.Paced p) l) {pre post : List Entry} {t d : Nat}
    (hl : l = pre ++ .slept t d :: post) {e : Entry} (he : e ∈ post) : t + d ≤ e.time := by
  obtain ⟨before, after, rfl⟩ := List.append_of_mem he
  cases before with
  | nil => exact (h (pre ++ [.slept t d]) e after (by simp [hl])).awake pre t d rfl
  | cons e' before =>
      have hnext : t + d ≤ e'.time :=
        (h (pre ++ [.slept t d]) e' (before ++ e :: after) (by simp [hl])).awake pre t d rfl
      have hlater : e'.time ≤ e.time :=
        (h (pre ++ .slept t d :: e' :: before) e after (by simp [hl])).later e' (by simp)
      exact Nat.le_trans hnext hlater

/-- When the attempts were made. -/
def tries (l : List Entry) : List Nat :=
  l.filterMap fun
    | .tried t => some t
    | _ => none

theorem mem_tries {t : Nat} (h : t ∈ tries l) : .tried t ∈ l := by
  obtain ⟨e, he, ht⟩ := List.mem_filterMap.mp h
  cases e with
  | tried t' => rwa [← Option.some_inj.mp ht]
  | reset => simp at ht
  | slept => simp at ht

theorem pairwise_tries (h : Each (Entry.Paced p) l) :
    (tries l).Pairwise fun t u => t + p.first ≤ u := by
  induction l using List.reverseRecOn with
  | nil => simp [tries]
  | append_singleton l e ih =>
      have hpre := (History.each_concat.mp h).1
      cases e with
      | tried u =>
          have hone : tries (l ++ [.tried u]) = tries l ++ [u] := by simp [tries]
          rw [hone, List.pairwise_append]
          refine ⟨ih hpre, List.pairwise_singleton _ _, ?_⟩
          intro t ht u' hu'
          obtain rfl := List.mem_singleton.mp hu'
          exact tries_apart h rfl (mem_tries ht)
      | reset t =>
          have hnone : tries (l ++ [.reset t]) = tries l := by simp [tries]
          rw [hnone]
          exact ih hpre
      | slept t d =>
          have hnone : tries (l ++ [.slept t d]) = tries l := by simp [tries]
          rw [hnone]
          exact ih hpre

/-- Instants that are `gap` apart take their room. -/
theorem room_of_pairwise {ts : List Nat} {gap : Nat} (h : ts.Pairwise fun t u => t + gap ≤ u)
    {a b : Nat} (hab : a ≤ b + gap) (hts : ∀ t ∈ ts, a ≤ t ∧ t ≤ b) :
    a + ts.length * gap ≤ b + gap := by
  induction ts generalizing a with
  | nil => simpa using hab
  | cons t ts ih =>
      obtain ⟨hhead, htail⟩ := List.pairwise_cons.mp h
      have ht := hts t (by simp)
      have hrest : t + gap + ts.length * gap ≤ b + gap :=
        ih htail (by omega) fun u hu => ⟨hhead u hu, (hts u (by simp [hu])).2⟩
      have hlen : (t :: ts).length * gap = ts.length * gap + gap := by
        rw [List.length_cons, Nat.add_mul, Nat.one_mul]
      omega

/-- How many of them a stretch of time can hold. -/
theorem length_window_le {ts : List Nat} {gap : Nat} (hgap : 0 < gap)
    (h : ts.Pairwise fun t u => t + gap ≤ u) (start span : Nat) :
    (ts.filter fun t => start ≤ t ∧ t ≤ start + span).length ≤ span / gap + 1 := by
  have hroom := room_of_pairwise (h.filter fun t => start ≤ t ∧ t ≤ start + span)
    (a := start) (b := start + span) (by omega) (by simp)
  generalize (ts.filter fun t => start ≤ t ∧ t ≤ start + span).length = n at hroom ⊢
  cases n with
  | zero => exact Nat.zero_le _
  | succ n =>
      have hn : n * gap ≤ span := by
        rw [Nat.add_mul, Nat.one_mul] at hroom
        omega
      exact Nat.succ_le_succ ((Nat.le_div_iff_mul_le hgap).mpr hn)

/-! ## a loop in an automaton -/

/-- What a step of the automaton is to the loop. -/
inductive Act where
  | attempt
  | reset
  | sleep
  | wake
  | other

/-- Where the loop is. -/
inductive Stage where
  | ready
  | trying
  | asleep
  | ended

/-- What an act does to the loop. -/
inductive Turn : Act → Stage → Stage → Prop
  | attempt : Turn .attempt .ready .trying
  | reset : Turn .reset .trying .trying
  | sleep : Turn .sleep .trying .asleep
  | wake : Turn .wake .asleep .ready
  | ended {g : Stage} (h : g ≠ .asleep) : Turn .other g .ended
  | other {g : Stage} : Turn .other g g

theorem Turn.of_attempt {g g' : Stage} (h : Turn .attempt g g') : g = .ready ∧ g' = .trying := by
  cases h
  exact ⟨rfl, rfl⟩

theorem Turn.of_reset {g g' : Stage} (h : Turn .reset g g') : g = .trying ∧ g' = .trying := by
  cases h
  exact ⟨rfl, rfl⟩

theorem Turn.of_sleep {g g' : Stage} (h : Turn .sleep g g') : g = .trying ∧ g' = .asleep := by
  cases h
  exact ⟨rfl, rfl⟩

theorem Turn.of_wake {g g' : Stage} (h : Turn .wake g g') : g = .asleep ∧ g' = .ready := by
  cases h
  exact ⟨rfl, rfl⟩

theorem Turn.of_other {g g' : Stage} (h : Turn .other g g') :
    g' = g ∨ (g ≠ .asleep ∧ g' = .ended) := by
  cases h with
  | ended h => exact .inr ⟨h, rfl⟩
  | other => exact .inl rfl

variable {σ : Type u} {ε : Type v}

/-- An automaton with a clock and with such a loop in it. -/
structure Retrying (σ : Type u) (ε : Type v) where
  auto : Automaton σ ε
  clock : σ → Nat
  act : σ → ε → Act
  stage : σ → Stage
  pace : Backoff
  clock_le : ∀ s e t, auto.step s e = some t → clock s ≤ clock t
  ready : ∀ s, auto.init s → stage s = .ready
  turn : ∀ s e t, auto.step s e = some t → Turn (act s e) (stage s) (stage t)

/-- The automaton with what the loop keeps. -/
structure Timed (σ : Type u) where
  base : σ
  /-- The length of the next sleep, or of the present one. -/
  backoff : Nat
  /-- When the present sleep ends. -/
  wakeAt : Nat := 0
  log : List Entry := []

/-- A step of the automaton, which has to wait for the end of a sleep. -/
def Timed.step (R : Retrying σ ε) (s : Timed σ) (e : ε) : Option (Timed σ) :=
  (R.auto.step s.base e).bind fun t =>
    let now := R.clock s.base
    match R.act s.base e with
    | .attempt => some { s with base := t, log := s.log ++ [.tried now] }
    | .reset => some { s with base := t, backoff := R.pace.first, log := s.log ++ [.reset now] }
    | .sleep =>
        some { s with
          base := t, wakeAt := now + s.backoff, log := s.log ++ [.slept now s.backoff] }
    | .wake =>
        if s.wakeAt ≤ now then some { s with base := t, backoff := R.pace.next s.backoff } else none
    | .other => some { s with base := t }

/-- The automaton, paced by its loop. -/
def paced (R : Retrying σ ε) : Automaton (Timed σ) ε where
  init s := R.auto.init s.base ∧ s = { base := s.base, backoff := R.pace.first }
  step := Timed.step R

/-- Everything one step can do. -/
inductive TimedMoved (R : Retrying σ ε) (s : Timed σ) (e : ε) (t : σ) : Timed σ → Prop
  | tried (h : R.act s.base e = .attempt) :
      TimedMoved R s e t { s with base := t, log := s.log ++ [.tried (R.clock s.base)] }
  | reset (h : R.act s.base e = .reset) :
      TimedMoved R s e t
        { s with base := t, backoff := R.pace.first, log := s.log ++ [.reset (R.clock s.base)] }
  | slept (h : R.act s.base e = .sleep) :
      TimedMoved R s e t
        { s with
          base := t, wakeAt := R.clock s.base + s.backoff
          log := s.log ++ [.slept (R.clock s.base) s.backoff] }
  | woken (h : R.act s.base e = .wake) (hwake : s.wakeAt ≤ R.clock s.base) :
      TimedMoved R s e t { s with base := t, backoff := R.pace.next s.backoff }
  | other (h : R.act s.base e = .other) : TimedMoved R s e t { s with base := t }

variable {R : Retrying σ ε}

/-- **Inversion of a step**: the automaton moves, and the loop does one of the things
`TimedMoved` lists. -/
theorem timed_moved {s u : Timed σ} {e : ε} (h : s.step R e = some u) :
    ∃ t, R.auto.step s.base e = some t ∧ TimedMoved R s e t u := by
  rw [Timed.step, Option.bind_eq_some_iff] at h
  obtain ⟨t, ht, h⟩ := h
  refine ⟨t, ht, ?_⟩
  cases hact : R.act s.base e with
  | attempt =>
      simp only [hact, Option.some.injEq] at h
      exact h ▸ .tried hact
  | reset =>
      simp only [hact, Option.some.injEq] at h
      exact h ▸ .reset hact
  | sleep =>
      simp only [hact, Option.some.injEq] at h
      exact h ▸ .slept hact
  | wake =>
      simp only [hact, Option.ite_none_right_eq_some, Option.some.injEq] at h
      exact h.2 ▸ .woken hact h.1
  | other =>
      simp only [hact, Option.some.injEq] at h
      exact h ▸ .other hact

/-- The automaton runs as it would without a pace. -/
theorem reachable_base {s : Timed σ} (h : (paced R).Reachable s) : R.auto.Reachable s.base := by
  have hinit : ∀ s, (paced R).init s → R.auto.init s.base := by
    intro s hs
    exact hs.1
  refine h.simulate Timed.base hinit ?_
  intro s e u hstep
  obtain ⟨t, ht, hmoved⟩ := timed_moved hstep
  cases hmoved <;> exact .inr ⟨e, ht⟩

/-! ## the invariant -/

/-- What the log, the next sleep and the end of the present one are in a reachable
state. -/
structure OnPace (R : Retrying σ ε) (s : Timed σ) : Prop where
  log : Each (Entry.Paced R.pace) s.log
  past : ∀ e ∈ s.log, e.time ≤ R.clock s.base
  ready : R.stage s.base = .ready → s.log = [] ∨ ∃ pre t d, s.log = pre ++ [.slept t d]
  awake : R.stage s.base ≠ .asleep →
    (∀ pre t d, s.log = pre ++ [.slept t d] → t + d ≤ R.clock s.base) ∧
      s.backoff = R.pace.sleep (sleeps s.log)
  asleep : R.stage s.base = .asleep →
    ∃ pre t, s.log = pre ++ [.slept t s.backoff] ∧ s.wakeAt = t + s.backoff ∧
      s.backoff = R.pace.sleep (sleeps pre)

theorem onPace_of_init {s : Timed σ} (h : (paced R).init s) : OnPace R s := by
  obtain ⟨hinit, hs⟩ := h
  have hready := R.ready s.base hinit
  rw [hs]
  refine ⟨by simp, by simp, fun _ => .inl rfl, fun _ => ⟨by simp, rfl⟩, ?_⟩
  intro hasleep
  simp [hready] at hasleep

/-- An entry made while the loop is awake is on pace if it is a sleep of the right
length or an attempt after a sleep. -/
theorem OnPace.each_concat {s : Timed σ} (h : OnPace R s) (hstage : R.stage s.base ≠ .asleep)
    {e : Entry} (htime : e.time = R.clock s.base)
    (hsleep : ∀ t d, e = .slept t d → d = R.pace.sleep (sleeps s.log))
    (hapart : ∀ t, e = .tried t → s.log = [] ∨ ∃ pre t' d, s.log = pre ++ [.slept t' d]) :
    Each (Entry.Paced R.pace) (s.log ++ [e]) ∧ ∀ e' ∈ s.log ++ [e], e'.time ≤ R.clock s.base := by
  constructor
  · refine History.each_concat.mpr ⟨h.log, ⟨?_, ?_, hsleep, hapart⟩⟩
    · intro e' he'
      exact htime ▸ h.past e' he'
    · intro pre t d hpre
      exact htime ▸ (h.awake hstage).1 pre t d hpre
  · intro e' he'
    cases List.mem_append.mp he' with
    | inl he' => exact h.past e' he'
    | inr he' => exact Nat.le_of_eq (List.mem_singleton.mp he' ▸ htime)

/-- One step keeps the invariant. -/
theorem onPace_step {s u : Timed σ} {e : ε} (h : OnPace R s) (hstep : (paced R).step s e = some u) :
    OnPace R u := by
  obtain ⟨t, ht, hmoved⟩ := timed_moved hstep
  have hclock := R.clock_le _ _ _ ht
  have hturn := R.turn _ _ _ ht
  cases hmoved with
  | tried hact =>
      obtain ⟨hg, hg'⟩ := (hact ▸ hturn).of_attempt
      have hawake : R.stage s.base ≠ .asleep := by simp [hg]
      obtain ⟨hlog, hpast⟩ := h.each_concat (e := .tried (R.clock s.base)) hawake rfl
        (by simp) fun _ _ => h.ready hg
      refine ⟨hlog, fun e' he' => Nat.le_trans (hpast e' he') hclock, by simp [hg'], ?_, by simp [hg']⟩
      exact fun _ => ⟨by simp, by simpa using (h.awake hawake).2⟩
  | reset hact =>
      obtain ⟨hg, hg'⟩ := (hact ▸ hturn).of_reset
      have hawake : R.stage s.base ≠ .asleep := by simp [hg]
      obtain ⟨hlog, hpast⟩ := h.each_concat (e := .reset (R.clock s.base)) hawake rfl
        (by simp) (by simp)
      refine ⟨hlog, fun e' he' => Nat.le_trans (hpast e' he') hclock, by simp [hg'], ?_, by simp [hg']⟩
      exact fun _ => ⟨by simp, by simp [sleep]⟩
  | slept hact =>
      obtain ⟨hg, hg'⟩ := (hact ▸ hturn).of_sleep
      have hbackoff := (h.awake (by simp [hg])).2
      obtain ⟨hlog, hpast⟩ := h.each_concat (e := .slept (R.clock s.base) s.backoff) (by simp [hg]) rfl
        (fun t d hd => (Entry.slept.inj hd).2 ▸ hbackoff) (by simp)
      refine ⟨hlog, fun e' he' => Nat.le_trans (hpast e' he') hclock, by simp [hg'], by simp [hg'], ?_⟩
      exact fun _ => ⟨s.log, R.clock s.base, rfl, rfl, hbackoff⟩
  | woken hact hwake =>
      obtain ⟨hg, hg'⟩ := (hact ▸ hturn).of_wake
      obtain ⟨pre, t', hlog, hend, hbackoff⟩ := h.asleep hg
      refine ⟨h.log, fun e' he' => Nat.le_trans (h.past e' he') hclock, ?_, ?_, by simp [hg']⟩
      · exact fun _ => .inr ⟨pre, t', s.backoff, hlog⟩
      · refine fun _ => ⟨?_, by rw [hlog, sleeps_slept, sleep, hbackoff]⟩
        intro pre' t'' d hlog'
        have hsame : pre' ++ [.slept t'' d] = pre ++ [.slept t' s.backoff] := hlog'.symm.trans hlog
        obtain ⟨-, hlast⟩ := List.append_inj' hsame rfl
        simp only [List.cons.injEq, Entry.slept.injEq, and_true] at hlast
        show t'' + d ≤ R.clock t
        omega
  | other hact =>
      have hpast : ∀ e' ∈ s.log, e'.time ≤ R.clock t :=
        fun e' he' => Nat.le_trans (h.past e' he') hclock
      have hlate : R.stage s.base ≠ .asleep →
          (∀ pre t' d, s.log = pre ++ [.slept t' d] → t' + d ≤ R.clock t) ∧
            s.backoff = R.pace.sleep (sleeps s.log) := by
        intro hawake
        obtain ⟨hend, hbackoff⟩ := h.awake hawake
        exact ⟨fun pre t' d hl => Nat.le_trans (hend pre t' d hl) hclock, hbackoff⟩
      cases (hact ▸ hturn).of_other with
      | inl hsame =>
          refine ⟨h.log, hpast, ?_, ?_, ?_⟩
          · exact fun hready => h.ready (hsame.symm.trans hready)
          · exact fun hawake => hlate fun hs => hawake (hsame.trans hs)
          · exact fun hasleep => h.asleep (hsame.symm.trans hasleep)
      | inr hover =>
          exact ⟨h.log, hpast, by simp [hover.2], fun _ => hlate hover.1, by simp [hover.2]⟩

theorem onPace_of_reachable {s : Timed σ} (h : (paced R).Reachable s) : OnPace R s :=
  h.invariant (fun _ => onPace_of_init) fun _ _ _ _ ih hstep => onPace_step ih hstep

/-! ## every run -/

/-- **Attempts keep their distance**: everything the loop did before an attempt is at
least the shortest sleep before it. -/
theorem paced_tries {s : Timed σ} (h : (paced R).Reachable s) {pre post : List Entry} {t : Nat}
    (hl : s.log = pre ++ .tried t :: post) {e : Entry} (he : e ∈ pre) :
    e.time + R.pace.first ≤ t :=
  tries_apart (onPace_of_reachable h).log hl he

/-- **The sleeps**: each has the length the ones since the last reset call for, and
nothing is done before it is over. -/
theorem paced_sleeps {s : Timed σ} (h : (paced R).Reachable s) {pre post : List Entry} {t d : Nat}
    (hl : s.log = pre ++ .slept t d :: post) :
    d = min (R.pace.first * 2 ^ sleeps pre) R.pace.longest ∧ ∀ e ∈ post, t + d ≤ e.time := by
  have hlog := (onPace_of_reachable h).log
  refine ⟨?_, fun e he => sleeps_in_full hlog hl he⟩
  rw [← sleep_eq]
  exact (hlog pre _ post hl).sleep t d rfl

/-- **Attempts are rare**: how many a stretch of time can hold. -/
theorem paced_window {s : Timed σ} (h : (paced R).Reachable s) (start span : Nat) :
    ((tries s.log).filter fun t => start ≤ t ∧ t ≤ start + span).length ≤
      span / R.pace.first + 1 :=
  length_window_le R.pace.first_pos (pairwise_tries (onPace_of_reachable h).log) start span

/-! ## what the loop delays -/

/-- A step that does not end a sleep is not delayed. -/
theorem paced_step {s : Timed σ} {e : ε} {t : σ} (h : R.auto.step s.base e = some t)
    (hact : R.act s.base e ≠ .wake) : ∃ u, (paced R).step s e = some u ∧ u.base = t := by
  show ∃ u, Timed.step R s e = some u ∧ u.base = t
  cases hs : R.act s.base e with
  | wake => exact absurd hs hact
  | _ => exact ⟨_, by simp [Timed.step, h, hs]; rfl, rfl⟩

/-- A sleep that is over can end. -/
theorem paced_wake {s : Timed σ} {e : ε} {t : σ} (h : R.auto.step s.base e = some t)
    (hact : R.act s.base e = .wake) (hwake : s.wakeAt ≤ R.clock s.base) :
    (paced R).step s e = some { s with base := t, backoff := R.pace.next s.backoff } := by
  show Timed.step R s e = _
  simp [Timed.step, h, hact, hwake]

/-- A step that is not the loop's leaves what it keeps. -/
theorem paced_other {s : Timed σ} {e : ε} {t : σ} (h : R.auto.step s.base e = some t)
    (hact : R.act s.base e = .other) : (paced R).step s e = some { s with base := t } := by
  show Timed.step R s e = _
  simp [Timed.step, h, hact]

/-- Where the automaton can get to without ending a sleep, it can with its pace. -/
theorem leads_paced {P : ε → Prop} (hP : ∀ s e, P e → R.act s e ≠ .wake) {s : Timed σ} {t : σ}
    (h : R.auto.Leads P s.base t) : ∃ u, (paced R).Leads P s u ∧ u.base = t := by
  obtain ⟨es, hes, hrun⟩ := h
  induction es generalizing s with
  | nil =>
      rw [Automaton.run_nil, Option.some.injEq] at hrun
      exact ⟨s, .refl s, hrun⟩
  | cons e es ih =>
      rw [Automaton.run_cons, Option.bind_eq_some_iff] at hrun
      obtain ⟨m, hm, hrest⟩ := hrun
      have he : P e := hes e (by simp)
      obtain ⟨u, hu, hbase⟩ := paced_step hm (hP s.base e he)
      obtain ⟨u', hu', hbase'⟩ := ih (s := u) (fun e' he' => hes e' (by simp [he'])) (hbase ▸ hrest)
      exact ⟨u', (Automaton.Leads.of_step he hu).trans hu', hbase'⟩

/-- A sleep ends no later than the longest one from now. -/
theorem wakeAt_le {s : Timed σ} (h : (paced R).Reachable s) (hasleep : R.stage s.base = .asleep) :
    s.wakeAt ≤ R.clock s.base + R.pace.longest := by
  have hpace := onPace_of_reachable h
  obtain ⟨pre, t, hlog, hend, hbackoff⟩ := hpace.asleep hasleep
  have ht : t ≤ R.clock s.base := hpace.past (.slept t s.backoff) (by simp [hlog])
  have hlongest : s.backoff ≤ R.pace.longest := hbackoff ▸ R.pace.sleep_le_longest _
  omega

end Backoff
