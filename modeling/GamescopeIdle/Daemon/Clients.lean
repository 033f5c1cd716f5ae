import GamescopeIdle.Daemon.Steps

/-!
# GamescopeIdle.Daemon.Clients

What a control client can do to the main loop.

`handle_control` waits for its client's line, and the loop waits for
`handle_control`.  So an event that is pending can be handled without a further
step of a client exactly when the loop is not inside `handle_control` with a
client that has neither sent a whole line nor gone away (`Wedged`,
`canHandle_iff_not_wedged`).
-/

namespace GamescopeIdle

/-- What the loop may have pending. -/
inductive Pending where
  | activity
  | sigusr1
  | sigusr2
  | sigterm
  | sigint
deriving DecidableEq, Repr

/-- The steps of the daemon that handle it, from the `select!` on. -/
def Pending.handling (a : Answers) : Pending → List Label
  | activity => [.choose .recv, .start a]
  | sigusr1 => [.choose .sigusr1, .start a]
  | sigusr2 => [.choose .sigusr2, .start a]
  | sigterm => [.stop .sigterm a]
  | sigint => [.stop .sigint a]

theorem Pending.isDaemon_of_mem_handling {a : Answers} {p : Pending} {l : Label}
    (h : l ∈ p.handling a) : l.isDaemon = true := by
  cases p <;> simp [handling] at h
  case activity => cases h <;> simp [Label.isDaemon, *]
  case sigusr1 => cases h <;> simp [Label.isDaemon, *]
  case sigusr2 => cases h <;> simp [Label.isDaemon, *]
  case sigterm => simp [Label.isDaemon, h]
  case sigint => simp [Label.isDaemon, h]

namespace Daemon

/-- The event is pending. -/
def pending (d : Daemon) : Pending → Bool
  | .activity => d.queued
  | .sigusr1 => d.sigusr1
  | .sigusr2 => d.sigusr2
  | .sigterm => d.sigterm
  | .sigint => d.ctrlC

/-- The loop waits for a client that has to move first. -/
def Wedged (d : Daemon) : Prop := ∃ c t q, d.loc = .reading c t q ∧ c.readLine = none

/-- Some steps of the daemon alone end with the event being handled. -/
def CanHandle (d : Daemon) (p : Pending) : Prop :=
  ∃ ls a, (∀ l ∈ ls, l.isDaemon = true) ∧ (loop.run d (ls ++ p.handling a)).isSome = true

/-! ## a wedged loop -/

/-- Outside the daemon only a client moves the place the loop is at. -/
theorem loc_of_outside {d d' : Daemon} {l : Label} (hdaemon : l.isDaemon = false)
    (hclient : l.isClient = false) (h : d.step l = some d') : d'.loc = d.loc := by
  cases l with
  | tick elapsed =>
      rw [step, Option.some.injEq] at h
      rw [← h]
  | trySend w handover =>
      simp only [step, trySend, Option.ite_none_left_eq_some, Option.some.injEq] at h
      obtain ⟨-, rfl⟩ := h
      rfl
  | raise s =>
      rw [step, Option.some.injEq] at h
      rw [← h]
      cases s <;> rfl
  | client s => simp [Label.isClient] at hclient
  | _ => simp [Label.isDaemon] at hdaemon

/-- In a wedged loop no step of the daemon is enabled. -/
theorem isDaemon_of_wedged {d d' : Daemon} {l : Label} (h : d.Wedged) (hstep : d.step l = some d') :
    l.isDaemon = false := by
  obtain ⟨c, t, q, hloc, hline⟩ := h
  cases l with
  | choose b => simp [step, choose, hloc] at hstep
  | start a => simp [step, start, current, hloc, hline] at hstep
  | finish => simp [step, finish, hloc] at hstep
  | stop s a => simp [step, stop, hloc] at hstep
  | _ => rfl

/-- A wedged loop stays so, and handles nothing, until a client moves. -/
theorem wedged_step {d d' : Daemon} {l : Label} (h : d.Wedged) (hclient : l.isClient = false)
    (hstep : d.step l = some d') : d'.Wedged ∧ d'.handled = d.handled := by
  have hdaemon := isDaemon_of_wedged h hstep
  constructor
  · obtain ⟨c, t, q, hloc, hline⟩ := h
    exact ⟨c, t, q, (loc_of_outside hdaemon hclient hstep).trans hloc, hline⟩
  · cases step_moved hstep with
    | outside _ hf => simp [Daemon.handled, hf.log]
    | reported => simp [Daemon.handled, handledOf]
    | _ => simp [Label.isDaemon] at hdaemon

theorem wedged_run {d d' : Daemon} {ls : List Label} (h : d.Wedged)
    (hclient : ∀ l ∈ ls, l.isClient = false) (hrun : loop.run d ls = some d') :
    d'.Wedged ∧ d'.handled = d.handled := by
  induction ls generalizing d with
  | nil =>
      rw [Automaton.run_nil, Option.some.injEq] at hrun
      rw [← hrun]
      exact ⟨h, rfl⟩
  | cons l ls ih =>
      rw [Automaton.run_cons, Option.bind_eq_some_iff] at hrun
      obtain ⟨e, hstep, hrest⟩ := hrun
      obtain ⟨hwedged, hhandled⟩ := wedged_step h (hclient l (by simp)) hstep
      obtain ⟨hwedged', hhandled'⟩ := ih hwedged (fun l hl => hclient l (by simp [hl])) hrest
      exact ⟨hwedged', hhandled'.trans hhandled⟩

theorem not_canHandle_of_wedged {d : Daemon} (h : d.Wedged) (p : Pending) : ¬ d.CanHandle p := by
  intro hcan
  obtain ⟨ls, a, hdaemon, hrun⟩ := hcan
  have hall : ∀ l ∈ ls ++ p.handling a, l.isDaemon = true := by
    intro l hl
    cases List.mem_append.mp hl with
    | inl hl => exact hdaemon l hl
    | inr hl => exact Pending.isDaemon_of_mem_handling hl
  cases hls : ls ++ p.handling a with
  | nil => cases p <;> simp [Pending.handling] at hls
  | cons l rest =>
      rw [hls] at hrun hall
      obtain ⟨d', hrun⟩ := Option.isSome_iff_exists.mp hrun
      obtain ⟨e, hstep, -⟩ := Option.bind_eq_some_iff.mp hrun
      have hno := isDaemon_of_wedged h hstep
      simp [hall l (by simp)] at hno

/-! ## a loop that is not wedged -/

/-- Only a branch with a handler of its own is ever being handled. -/
def WellPlaced (d : Daemon) : Prop :=
  ∀ b t q, d.loc = .handling b t q → b ≠ .accept ∧ b ≠ .acceptFailed

theorem wellPlaced_of_reachable {d : Daemon} (h : loop.Reachable d) : WellPlaced d := by
  refine h.invariant ?_ ?_
  · intro s hs b t q hloc
    simp [Init.loc hs] at hloc
  · intro d l d' _ ih hstep b t q hloc
    cases step_moved hstep with
    | outside _ hf =>
        rw [← Loc.erase_eq_handling, hf.loc, Loc.erase_eq_handling] at hloc
        exact ih b t q hloc
    | reported => exact ih b t q hloc
    | chose _ hready =>
        have htaken := loc_take hready
        generalize (d.take _).loc = l at hloc htaken
        cases htaken with
        | handler hb hb' =>
            obtain ⟨rfl, -⟩ : _ ∧ _ := by simpa using hloc
            exact ⟨hb, hb'⟩
        | _ => simp at hloc
    | _ => contradiction

theorem step_finish {d : Daemon} (h : d.loc = .top) :
    d.step .finish = some { d with deadline := nextDeadline d.machine d.clock, loc := .select } := by
  simp [step, finish, h]

/-- The handler of the chosen branch runs, and the loop goes round. -/
theorem run_start_finish {d : Daemon} {a : Answers} {e : Event} {t : Instant} {q : Bool}
    (hc : d.current a = some (e, t, q)) :
    ∃ d', loop.run d [.start a, .finish] = some d' ∧ d'.loc = .select ∧
      ∀ p, d'.pending p = d.pending p := by
  have hstart : d.step (.start a) = some (d.exec a e t q) := by simp [step, start, hc]
  have htop : (d.exec a e t q).loc = .top := rfl
  let d' := d.exec a e t q
  refine ⟨{ d' with deadline := nextDeadline d'.machine d'.clock, loc := .select }, ?_, rfl, ?_⟩
  · simp only [Automaton.run_cons, step_loop, hstart, Option.bind_some, step_finish htop,
      Automaton.run_nil, d']
  · intro p
    cases p <;> rfl

/-- A loop that is not wedged gets back to its `select!` on its own. -/
theorem run_to_select {d : Daemon} (hplaced : WellPlaced d) (hrun : d.Running)
    (hwedged : ¬ d.Wedged) (hloc : d.loc ≠ .select) :
    ∃ ls d', (∀ l ∈ ls, l.isDaemon = true) ∧ loop.run d ls = some d' ∧ d'.loc = .select ∧
      ∀ p, d'.pending p = d.pending p := by
  have hstart : ∀ {e t q}, d.current {} = some (e, t, q) →
      ∃ ls d', (∀ l ∈ ls, l.isDaemon = true) ∧ loop.run d ls = some d' ∧ d'.loc = .select ∧
        ∀ p, d'.pending p = d.pending p := by
    intro e t q hc
    obtain ⟨d', hd'⟩ := run_start_finish hc
    exact ⟨[.start {}, .finish], d', by simp [Label.isDaemon], hd'⟩
  cases hl : d.loc with
  | top =>
      refine ⟨[.finish], { d with deadline := nextDeadline d.machine d.clock, loc := .select },
        by simp [Label.isDaemon], ?_, rfl, ?_⟩
      · simp only [Automaton.run_cons, step_loop, step_finish hl, Option.bind_some,
          Automaton.run_nil]
      · intro p
        cases p <;> rfl
  | select => contradiction
  | stopped => exact absurd hl hrun
  | handling b t q =>
      obtain ⟨hb, hb'⟩ := hplaced b t q hl
      cases b with
      | accept => contradiction
      | acceptFailed => contradiction
      | _ => exact hstart (by simp [current, hl]; exact ⟨rfl, rfl, rfl⟩)
  | reading c t q =>
      cases hline : c.readLine with
      | none => exact absurd ⟨c, t, q, hl, hline⟩ hwedged
      | some line => exact hstart (by simp [current, hl, hline]; exact ⟨rfl, rfl, rfl⟩)

/-- At the `select!` a pending event can be handled next. -/
theorem run_handling {d : Daemon} (hloc : d.loc = .select) {p : Pending}
    (hp : d.pending p = true) : (loop.run d (p.handling {})).isSome = true := by
  cases p with
  | activity =>
      have hq : d.queued = true := hp
      simp [Pending.handling, loop, step, choose, hloc, ready, hq, start, current, take]
  | sigusr1 =>
      have hs : d.sigusr1 = true := hp
      simp [Pending.handling, loop, step, choose, hloc, ready, hs, start, current, take]
  | sigusr2 =>
      have hs : d.sigusr2 = true := hp
      simp [Pending.handling, loop, step, choose, hloc, ready, hs, start, current, take]
  | sigterm =>
      have hs : d.sigterm = true := hp
      simp [Pending.handling, loop, step, stop, hloc, hs]
  | sigint =>
      have hs : d.ctrlC = true := hp
      simp [Pending.handling, loop, step, stop, hloc, hs]

theorem canHandle_of_not_wedged {d : Daemon} (h : loop.Reachable d) (hrun : d.Running)
    (hwedged : ¬ d.Wedged) {p : Pending} (hp : d.pending p = true) : d.CanHandle p := by
  by_cases hloc : d.loc = .select
  · exact ⟨[], {}, by simp, run_handling hloc hp⟩
  · obtain ⟨ls, d', hdaemon, hls, hselect, hkeep⟩ :=
      run_to_select (wellPlaced_of_reachable h) hrun hwedged hloc
    have hp' : d'.pending p = true := (hkeep p).trans hp
    refine ⟨ls, {}, hdaemon, ?_⟩
    rw [Automaton.run_append, hls, Option.bind_some]
    exact run_handling hselect hp'

/-- **Clients and pending events**: in every reachable state of a running loop,
a pending event can be handled without a step of a client exactly when the loop
is not wedged; and a wedged loop handles nothing until a client moves. -/
theorem canHandle_iff_not_wedged {d : Daemon} (h : loop.Reachable d) (hrun : d.Running)
    {p : Pending} (hp : d.pending p = true) :
    (d.CanHandle p ↔ ¬ d.Wedged) ∧
      (d.Wedged → ∀ ls d', (∀ l ∈ ls, l.isClient = false) → loop.run d ls = some d' →
        d'.Wedged ∧ d'.handled = d.handled) := by
  constructor
  · constructor
    · intro hcan hwedged
      exact not_canHandle_of_wedged hwedged p hcan
    · intro hwedged
      exact canHandle_of_not_wedged h hrun hwedged hp
  · intro hwedged ls d' hclient hls
    exact wedged_run hwedged hclient hls

/-- A client that has sent its line does not hold up a `SIGTERM`. -/
theorem canHandle_iff_not_wedged_fresh :
    ∃ d, loop.run fresh
        [.finish, .client .connect, .client (.send (some 0) [0x0A]), .choose .accept,
          .raise .sigterm] = some d ∧
      d.CanHandle .sigterm := by
  obtain ⟨d, hrun, hloc, hp⟩ : ∃ d, loop.run fresh
      [.finish, .client .connect, .client (.send (some 0) [0x0A]), .choose .accept,
        .raise .sigterm] = some d ∧
      d.loc = .reading { sent := [0x0A] } 0 false ∧ d.pending .sigterm = true :=
    ⟨_, rfl, rfl, rfl⟩
  have hwedged : ¬ d.Wedged := by
    intro hwedged
    obtain ⟨c, t, q, hloc', hline⟩ := hwedged
    rw [hloc, Loc.reading.injEq] at hloc'
    rw [← hloc'.1] at hline
    simp [Client.readLine] at hline
  have hrunning : d.Running := by simp [Running, hloc]
  exact ⟨d, hrun,
    (canHandle_iff_not_wedged ⟨fresh, _, init_fresh, hrun⟩ hrunning hp).1.mpr hwedged⟩

/-- A client connects and stays silent; input that is reported then waits for it. -/
theorem silent_client_wedges :
    ∃ d, loop.run fresh
        [.finish, .client .connect, .choose .accept,
          .trySend (.evdev "/dev/input/event3") false] = some d ∧
      d.pending .activity = true ∧ ¬ d.CanHandle .activity := by
  have hrun : loop.run fresh
      [.finish, .client .connect, .choose .accept,
        .trySend (.evdev "/dev/input/event3") false] = some _ := rfl
  exact ⟨_, hrun, rfl, not_canHandle_of_wedged ⟨{}, 0, false, rfl, rfl⟩ .activity⟩

end Daemon

end GamescopeIdle
