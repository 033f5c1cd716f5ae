import GamescopeIdle.Daemon.Steps
import GamescopeIdle.Lib.History

/-!
# GamescopeIdle.Daemon.Timing

Timed safety of the main loop: what its timer may do, and when, in view of
every event handled before (`TimerLaw`).

The two instants the machine keeps are tied to the history of the run by the
invariant `Timely`: `last_activity` is never before an event that restarts the
idle timer, and in the dim window `dim_deadline` lies `dim_warning` after the
event that opened it.  A timer is never handled before the deadline that the
present state calls for (`Due`), however long the handlers before it took.
-/

namespace GamescopeIdle

open History (Each Since)

/-! ## the law of the timer -/

/-- The event restarts the idle timer in the given state: input, `SIGUSR2`,
`wake`, or a timer check that an inhibitor defers. -/
def Event.refreshes (e : Event) (s : State) : Bool :=
  e.wakes || (e.inhibited && s == .active)

namespace Handled

/-- The event restarted the idle timer. -/
def refreshes (h : Handled) : Bool := h.event.refreshes h.before

/-- The state after the events of a history, which starts active. -/
def stateAfter (hs : List Handled) : State := (hs.getLast?.map (·.after)).getD .active

/-- The event entered the dim window, which ends no later than `deadline`. -/
def OpensDim (cfg : Config) (deadline : Instant) (h : Handled) : Prop :=
  h.before = .active ∧ h.after = .dim ∧ h.time + cfg.dimWarning ≤ deadline

/-- The event left the machine in the dim window. -/
def StaysDim (h : Handled) : Prop := h.before = .dim ∧ h.after = .dim ∧ h.event.wakes = false

/-- What holds of every event handled, in view of those handled before it, by a
loop that started with machine `s`. -/
structure TimerLaw (s : Machine) (past : List Handled) (h : Handled) : Prop where
  /-- Only events change the state. -/
  before : h.before = stateAfter past
  /-- A handler runs after its branch was chosen. -/
  time : h.chosen ≤ h.time
  /-- The timer leaves active a full idle timeout after everything that
  restarts it. -/
  leavesActive : h.event.isTimeout = true → h.before = .active → h.after ≠ .active →
    s.lastActivity + s.cfg.idleTimeout ≤ h.chosen ∧
      ∀ r ∈ past, r.refreshes = true → r.time + s.cfg.idleTimeout ≤ h.chosen
  /-- The timer ends the dim window, and not before its time. -/
  leavesDim : h.event.isTimeout = true → h.before = .dim →
    h.after = .black ∧ Since (fun _ r => r.OpensDim s.cfg h.chosen) StaysDim past
  /-- Only the timer dims, only from active, and only when there is a warning. -/
  entersDim : h.before ≠ .dim → h.after = .dim →
    h.before = .active ∧ h.event.isTimeout = true ∧ s.cfg.dimWarningSecs ≠ 0
  /-- Only input, `SIGUSR2` and `wake` leave black. -/
  leavesBlack : h.before = .black → h.after ≠ .black →
    h.event.wakes = true ∧ h.event.isTimeout = false
  /-- Every return to active restarts the idle timer. -/
  returns : h.before ≠ .active → h.after = .active → h.refreshes = true

end Handled

namespace Event

/-- An explicit blank does not restart the idle timer. -/
theorem refreshes_of_blanks {e : Event} (h : e.blanks = true) (s : State) :
    e.refreshes s = false := by
  cases e with
  | control line =>
      cases line with
      | none => simp [blanks] at h
      | some line =>
          have hparse : Command.parse line = some .blank := by simpa [blanks] using h
          simp [refreshes, wakes, inhibited, hparse]
  | sigusr1 => simp [refreshes, wakes, inhibited]
  | _ => simp [blanks] at h

end Event

namespace Machine

/-- The present state's deadline is no later than `t`. -/
def Due (m : Machine) (t : Instant) : Prop :=
  (m.state = .active → m.lastActivity + m.cfg.idleTimeout ≤ t) ∧
    (m.state = .dim → m.dimDeadline ≤ t)

theorem Due.mono {m : Machine} {t u : Instant} (h : m.Due t) (htu : t ≤ u) : m.Due u := by
  constructor
  · intro hs
    exact Nat.le_trans (h.1 hs) htu
  · intro hs
    exact Nat.le_trans (h.2 hs) htu

/-- `last_activity` is the clock of the last handler that restarted the timer. -/
theorem lastActivity_handle (env : Env) (e : Event) (m : Machine) :
    (m.handle env e).lastActivity =
      if e.refreshes m.state = true then env.now else m.lastActivity := by
  generalize hm : m.handle env e = m'
  cases handle_outcome hm with
  | idle hwake hinh =>
      have hno : e.refreshes m.state = false := by
        by_cases hact : m.state = .active
        · simp [Event.refreshes, hwake, hinh hact]
        · simp [Event.refreshes, hwake, hact]
      simp [hno]
  | refreshed hact h =>
      have hyes : e.refreshes m.state = true := by
        cases h with
        | inl h => simp [Event.refreshes, h]
        | inr h => simp [Event.refreshes, h, hact]
      simp [hyes]
  | woken h => simp [Event.refreshes, h]
  | dimmed htime _ hinh =>
      have hwake := Event.wakes_of_isTimeout htime
      simp [Event.refreshes, hwake, hinh]
  | blackened h =>
      have hno : e.refreshes m.state = false := by
        cases h with
        | inl h =>
            obtain ⟨htime, hs⟩ := h
            have hwake := Event.wakes_of_isTimeout htime
            cases hs with
            | inl hs => simp [Event.refreshes, hwake, hs]
            | inr hs => simp [Event.refreshes, hwake, hs.2.1]
        | inr h => exact Event.refreshes_of_blanks h.1 m.state
      simp [hno]

/-- The timer always ends the dim window. -/
theorem state_handle_of_dim {env : Env} {e : Event} {m : Machine} (htime : e.isTimeout = true)
    (hs : m.state = .dim) : (m.handle env e).state = .black := by
  cases e with
  | timeout inhibit screensaver => simp [handle, onTimeout, hs]
  | _ => simp [Event.isTimeout] at htime

end Machine

namespace Daemon

open Handled (TimerLaw OpensDim StaysDim stateAfter)

theorem due_nextDeadline (m : Machine) (now : Instant) : m.Due (nextDeadline m now) := by
  constructor
  · intro hs
    simp [nextDeadline, hs]
  · intro hs
    simp [nextDeadline, hs]

/-! ## the invariant -/

/-- The machine's instants agree with the history of a loop that started with
machine `s`. -/
structure Timely (s : Machine) (d : Daemon) : Prop where
  cfg : d.machine.cfg = s.cfg
  start : s.lastActivity ≤ d.machine.lastActivity
  now : d.machine.lastActivity ≤ d.clock
  refreshed : ∀ r ∈ d.handled, r.refreshes = true → r.time ≤ d.machine.lastActivity
  state : d.Running → d.machine.state = stateAfter d.handled
  dim : d.Running → d.machine.state = .dim →
    Since (fun _ r => r.OpensDim s.cfg d.machine.dimDeadline) StaysDim d.handled
  select : d.loc = .select → d.machine.Due d.deadline
  timer : ∀ t q, d.loc = .handling .timer t q → d.machine.Due t
  chosen : ∀ t, d.loc.chosen? = some t → t ≤ d.clock
  law : Each (TimerLaw s) d.handled

theorem handled_of_init {d : Daemon} (h : Init d) : d.handled = [] := by
  obtain ⟨ts, hlog, -⟩ := h.reports
  simp [handled, handledOf, hlog]

theorem timely_init {d : Daemon} (h : Init d) : Timely d.machine d where
  cfg := rfl
  start := Nat.le_refl _
  now := h.started
  refreshed := by simp [handled_of_init h]
  state _ := by
    obtain ⟨cfg, overlay, pathExists, dev, lastActivity, dimDeadline, hm⟩ := h.machine
    rw [hm, handled_of_init h]
    rfl
  dim _ hdim := by
    obtain ⟨cfg, overlay, pathExists, dev, lastActivity, dimDeadline, hm⟩ := h.machine
    rw [hm] at hdim
    contradiction
  select hloc := by simp [h.loc] at hloc
  timer t q hloc := by simp [h.loc] at hloc
  chosen t ht := by simp [h.loc, Loc.chosen?] at ht
  law := by simp [handled_of_init h]

theorem Frame.running {d d' : Daemon} (h : Frame d d') (hrun : d'.Running) : d.Running := by
  intro hstop
  refine hrun ?_
  rw [← Loc.erase_eq_stopped, h.loc, hstop]
  rfl

theorem running_of_step {d d' : Daemon} {l : Label} (hstep : d.step l = some d')
    (hrun : d'.Running) : d.Running := by
  cases step_moved hstep with
  | outside _ hf => exact hf.running hrun
  | reported _ hr => exact hr
  | chose hloc | finished hloc => simp [Running, hloc]
  | ran hc =>
      intro hstop
      simp [current, hstop] at hc
  | left => exact absurd rfl hrun

theorem Frame.handled {d d' : Daemon} (h : Frame d d') : d'.handled = d.handled := by
  simp [Daemon.handled, h.log]

theorem Timely.frame {s : Machine} {d d' : Daemon} (h : Timely s d) (hf : Frame d d') :
    Timely s d' where
  cfg := by rw [hf.machine, h.cfg]
  start := by rw [hf.machine]; exact h.start
  now := by rw [hf.machine]; exact Nat.le_trans h.now hf.clock
  refreshed := by rw [hf.machine, hf.handled]; exact h.refreshed
  state hrun := by rw [hf.machine, hf.handled]; exact h.state (hf.running hrun)
  dim hrun := by rw [hf.machine, hf.handled]; exact h.dim (hf.running hrun)
  select hloc := by
    rw [hf.machine, hf.deadline]
    rw [← Loc.erase_eq_select, hf.loc, Loc.erase_eq_select] at hloc
    exact h.select hloc
  timer t q hloc := by
    rw [hf.machine]
    rw [← Loc.erase_eq_handling, hf.loc, Loc.erase_eq_handling] at hloc
    exact h.timer t q hloc
  chosen t ht := by
    rw [← Loc.chosen?_erase, hf.loc, Loc.chosen?_erase] at ht
    exact Nat.le_trans (h.chosen t ht) hf.clock
  law := by rw [hf.handled]; exact h.law

theorem Timely.report {s : Machine} {d d' : Daemon} (h : Timely s d) {queued : Bool}
    (hd : d' = { d with queued := queued, log := d.log ++ [.reported d.clock] }) : Timely s d' := by
  have hhandled : d'.handled = d.handled := by simp [hd, Daemon.handled, handledOf]
  have hrun : d'.Running → d.Running := by simp [hd, Running]
  constructor
  case refreshed => rw [hhandled, hd]; exact h.refreshed
  case state => rw [hhandled, hd]; exact h.state
  case dim => rw [hhandled, hd]; exact h.dim
  case law => rw [hhandled]; exact h.law
  all_goals rw [hd]
  case cfg => exact h.cfg
  case start => exact h.start
  case now => exact h.now
  case select => exact h.select
  case timer => exact h.timer
  case chosen => exact h.chosen

theorem Timely.take {s : Machine} {d : Daemon} (h : Timely s d) {b : Branch}
    (hloc : d.loc = .select) (hready : d.ready b = true) : Timely s (d.take b) := by
  have hrun : d.Running := by simp [Running, hloc]
  have hhandled : (d.take b).handled = d.handled := by simp [Daemon.handled]
  constructor
  case cfg => rw [machine_take]; exact h.cfg
  case start => rw [machine_take]; exact h.start
  case now => rw [machine_take, clock_take]; exact h.now
  case refreshed => rw [machine_take, hhandled]; exact h.refreshed
  case state => rw [machine_take, hhandled]; exact fun _ => h.state hrun
  case dim => rw [machine_take, hhandled]; exact fun _ => h.dim hrun
  case select =>
    intro hsel
    have htaken := loc_take hready
    rw [hsel] at htaken
    cases htaken
  case timer =>
    intro t q htimer
    obtain ⟨rfl, rfl, -⟩ := handling_of_take hready htimer
    have hdue : d.deadline ≤ d.clock := by simpa [ready] using hready
    rw [machine_take]
    exact (h.select hloc).mono hdue
  case chosen =>
    intro t ht
    have htaken := loc_take hready
    generalize (d.take b).loc = l at ht htaken
    rw [clock_take]
    cases htaken with
    | failed => simp [Loc.chosen?] at ht
    | _ =>
        have hclock : d.clock = t := by simpa [Loc.chosen?] using ht
        exact Nat.le_of_eq hclock.symm
  case law => rw [hhandled]; exact h.law

/-! ## running a handler -/

/-- The event that runs now obeys the law. -/
theorem timerLaw_record {s : Machine} {d : Daemon} (h : Timely s d) {a : Answers} {e : Event}
    {t : Instant} {q : Bool} (hruns : Runs a d.loc e t q) (hrun : d.Running) :
    TimerLaw s d.handled (d.record a e t q) where
  before := h.state hrun
  time := h.chosen t hruns.chosen
  leavesActive htime hact _ := by
    have hdue := h.timer t q (hruns.of_isTimeout htime)
    have hlast := hdue.1 hact
    rw [h.cfg] at hlast
    constructor
    · exact Nat.le_trans (Nat.add_le_add_right h.start _) hlast
    · intro r hr href
      exact Nat.le_trans (Nat.add_le_add_right (h.refreshed r hr href) _) hlast
  leavesDim htime hdim := by
    have hdue := h.timer t q (hruns.of_isTimeout htime)
    constructor
    · exact Machine.state_handle_of_dim htime hdim
    · refine (h.dim hrun hdim).mono ?_
      intro _ r hr
      exact ⟨hr.1, hr.2.1, Nat.le_trans hr.2.2 (hdue.2 hdim)⟩
  entersDim hne hdim := by
    rw [← h.cfg]
    simp only [record] at hne hdim ⊢
    generalize hm : d.machine.handle (d.env a) e = m' at hdim
    cases Machine.handle_outcome hm with
    | idle => contradiction
    | refreshed => contradiction
    | woken => simp at hdim
    | dimmed htime hact _ hwarn => exact ⟨hact, htime, hwarn⟩
    | blackened => simp at hdim
  leavesBlack hblack hne := by
    simp only [record] at hblack hne ⊢
    generalize hm : d.machine.handle (d.env a) e = m' at hne
    cases Machine.handle_outcome hm with
    | idle => contradiction
    | refreshed => contradiction
    | woken hwake => exact ⟨hwake, Event.isTimeout_of_wakes hwake⟩
    | dimmed _ hact => simp [hblack] at hact
    | blackened => simp at hne
  returns hne hact := by
    simp only [record, Handled.refreshes] at hne hact ⊢
    generalize hm : d.machine.handle (d.env a) e = m' at hact
    cases Machine.handle_outcome hm with
    | idle => contradiction
    | refreshed => contradiction
    | woken hwake => simp [Event.refreshes, hwake]
    | dimmed => simp at hact
    | blackened => simp at hact

/-- The dim window that the history has opened, after one more event. -/
theorem since_record {s : Machine} {d : Daemon} (h : Timely s d) (hrun : d.Running) (a : Answers)
    (e : Event) (t : Instant) (q : Bool)
    (hdim : (d.machine.handle (d.env a) e).state = .dim) :
    Since (fun _ r => r.OpensDim s.cfg (d.machine.handle (d.env a) e).dimDeadline) StaysDim
      (d.handled ++ [d.record a e t q]) := by
  rw [History.since_concat]
  generalize hm : d.machine.handle (d.env a) e = m' at hdim
  cases Machine.handle_outcome hm with
  | idle hwake =>
      have hafter : (d.record a e t q).after = .dim := by simp [record, hm, hdim]
      exact .inr ⟨h.dim hrun hdim, hdim, hafter, hwake⟩
  | refreshed hact => simp [hact] at hdim
  | woken => simp at hdim
  | dimmed _ hact =>
      have hafter : (d.record a e t q).after = .dim := by simp [record, hm]
      have hend : (d.record a e t q).time + s.cfg.dimWarning ≤
          (d.machine.enterDim (d.env a)).dimDeadline := by
        rw [Machine.dimDeadline_enterDim, h.cfg]
        exact Nat.le_refl _
      exact .inl ⟨hact, hafter, hend⟩
  | blackened => simp at hdim

theorem Timely.exec {s : Machine} {d : Daemon} (h : Timely s d) {a : Answers} {e : Event}
    {t : Instant} {q : Bool} (hc : d.current a = some (e, t, q)) : Timely s (d.exec a e t q) := by
  have hrun : d.Running := by
    intro hstop
    simp [current, hstop] at hc
  have hlast : (d.exec a e t q).machine.lastActivity =
      if e.refreshes d.machine.state = true then d.clock else d.machine.lastActivity :=
    Machine.lastActivity_handle (d.env a) e d.machine
  have hkeep : d.machine.lastActivity ≤ (d.exec a e t q).machine.lastActivity := by
    rw [hlast]
    split
    · exact h.now
    · exact Nat.le_refl _
  constructor
  case cfg => exact (Machine.cfg_handle _ _ _).trans h.cfg
  case start => exact Nat.le_trans h.start hkeep
  case now =>
    rw [hlast]
    split
    · exact Nat.le_refl d.clock
    · exact h.now
  case refreshed =>
    intro r hr href
    rw [handled_exec, List.mem_append, List.mem_singleton] at hr
    cases hr with
    | inl hr => exact Nat.le_trans (h.refreshed r hr href) hkeep
    | inr hr =>
        have hthis : e.refreshes d.machine.state = true := by
          rw [hr] at href
          exact href
        rw [hlast, if_pos hthis, hr]
        exact Nat.le_refl _
  case state =>
    intro _
    rw [handled_exec]
    simp [stateAfter, record, Daemon.exec]
  case dim =>
    intro _ hdim
    rw [handled_exec]
    exact since_record h hrun a e t q hdim
  case select =>
    intro hloc
    contradiction
  case timer =>
    intro t q hloc
    contradiction
  case chosen =>
    intro t ht
    contradiction
  case law =>
    rw [handled_exec, History.each_concat]
    exact ⟨h.law, timerLaw_record h (current_runs hc) hrun⟩

/-! ## timed safety -/

/-- Every step keeps the invariant. -/
theorem timely_step {s : Machine} {d d' : Daemon} {l : Label} (h : Timely s d)
    (hstep : d.step l = some d') : Timely s d' := by
  cases step_moved hstep with
  | outside _ hf => exact h.frame hf
  | reported => exact h.report rfl
  | chose hloc hready => exact h.take hloc hready
  | ran hc => exact h.exec hc
  | finished hloc =>
      have hrun : d.Running := by simp [Running, hloc]
      constructor
      case select => exact fun _ => due_nextDeadline d.machine d.clock
      case timer => exact fun t q ht => by contradiction
      case chosen => exact fun t ht => by contradiction
      case state => exact fun _ => h.state hrun
      case dim => exact fun _ => h.dim hrun
      case cfg => exact h.cfg
      case start => exact h.start
      case now => exact h.now
      case refreshed => exact h.refreshed
      case law => exact h.law
  | left hloc =>
      have hlast : ∀ env, (d.machine.shutdown env).lastActivity = d.machine.lastActivity := by
        simp [Machine.shutdown, Machine.request]
      constructor
      case cfg => simpa [Machine.shutdown, Machine.request] using h.cfg
      case start => rw [hlast]; exact h.start
      case now => rw [hlast]; exact h.now
      case refreshed => rw [hlast]; exact h.refreshed
      case state => exact fun hrun => absurd rfl hrun
      case dim => exact fun hrun => absurd rfl hrun
      case select => exact fun hsel => by contradiction
      case timer => exact fun t q ht => by contradiction
      case chosen => exact fun t ht => by contradiction
      case law => exact h.law

theorem timely_of_reachable {d : Daemon} (h : loop.Reachable d) : ∃ s, Timely s d := by
  obtain ⟨d₀, ls, hinit, hrun⟩ := h
  have htimely : Timely d₀.machine d :=
    loop.run_invariant (timely_init hinit) (fun _ _ _ h hstep => timely_step h hstep) hrun
  exact ⟨d₀.machine, htimely⟩

theorem now_of_reachable {d : Daemon} (h : loop.Reachable d) :
    d.machine.lastActivity ≤ d.clock := by
  obtain ⟨s, htimely⟩ := timely_of_reachable h
  exact htimely.now

/-- **Timed safety**: in every timed run of the main loop each event handled
obeys the law of the timer, and until the loop is left the state is the one the
events handled have led to. -/
theorem timer_keeps_its_law {d₀ d : Daemon} {ls : List Label} (hinit : loop.init d₀)
    (hrun : loop.run d₀ ls = some d) :
    Each (TimerLaw d₀.machine) d.handled ∧
      (d.Running → d.machine.state = stateAfter d.handled) := by
  have htimely : Timely d₀.machine d :=
    loop.run_invariant (timely_init hinit) (fun _ _ _ h hstep => timely_step h hstep) hrun
  exact ⟨htimely.law, htimely.state⟩

/-- The default timeouts, run into the dim window. -/
theorem timer_keeps_its_law_fresh :
    ∃ d, loop.run fresh [.finish, .tick 300000000000, .choose .timer, .start {}] = some d ∧
      d.machine.state = .dim ∧ Each (TimerLaw fresh.machine) d.handled := by
  have hrun : loop.run fresh [.finish, .tick 300000000000, .choose .timer, .start {}] = some _ :=
    rfl
  exact ⟨_, hrun, rfl, (timer_keeps_its_law init_fresh hrun).1⟩

end Daemon

end GamescopeIdle
