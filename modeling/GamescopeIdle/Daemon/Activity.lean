import GamescopeIdle.Daemon.Timing

/-!
# GamescopeIdle.Daemon.Activity

Activity and the main loop.

* **No wake-up is lost** (`coalescing_loses_no_wakeup`): dropping a notification
  when one is queued already is harmless, since every report is still to be
  handled, or has been, by the next `on_activity`.
* **Input against the timer**: the `select!` is not biased, so a queued
  notification does not keep a timer that is due from being chosen
  (`not_timerMayBlank_iff`); it never is in the runs in which no deadline passes
  while a notification waits (`queued_input_beats_timer`).
-/

namespace GamescopeIdle

open History (Each Since)

namespace Machine

@[simp] theorem state_onActivity (env : Env) (m : Machine) :
    (m.onActivity env).state = .active := by
  unfold onActivity
  by_cases hact : m.state = .active <;> simp [hact]

@[simp] theorem lastActivity_onActivity (env : Env) (m : Machine) :
    (m.onActivity env).lastActivity = env.now := by
  unfold onActivity
  by_cases hact : m.state = .active <;> simp [hact]

end Machine

namespace Daemon

/-! ## no wake-up is lost -/

/-- A notification is in the channel, or has just been received. -/
def Notified (d : Daemon) : Prop :=
  d.queued = true ∨ ∃ t q, d.loc = .handling .recv t q

/-- `on_activity` was run for a report made at `t`, which `last_activity` knows. -/
def AnsweredIn (t : Instant) (m : Machine) (h : Handled) : Prop :=
  h.event = .activity ∧ t ≤ h.time ∧ h.time ≤ m.lastActivity ∧ h.after = .active

/-- Every report has been answered, or is going to be. -/
def NoneLost (d : Daemon) : Prop :=
  ∀ pre t post, d.log = pre ++ .reported t :: post →
    t ≤ d.clock ∧ (d.Notified ∨ ∃ h ∈ handledOf post, AnsweredIn t d.machine h)

theorem noneLost_init {d : Daemon} (h : Init d) : NoneLost d := by
  intro pre t post hlog
  obtain ⟨ts, hts, hqueued, hclock⟩ := h.reports
  rw [hts] at hlog
  have hmem : Happening.reported t ∈ ts.map .reported := by simp [hlog]
  have ht : t ∈ ts := by simpa using hmem
  cases hqueued with
  | inl hnil => simp [hnil] at ht
  | inr hqueued => exact ⟨hclock t ht, .inl (.inl hqueued)⟩

theorem NoneLost.frame {d d' : Daemon} (h : NoneLost d) (hf : Frame d d') : NoneLost d' := by
  intro pre t post hlog
  rw [hf.log] at hlog
  obtain ⟨ht, hheard⟩ := h pre t post hlog
  refine ⟨Nat.le_trans ht hf.clock, ?_⟩
  rw [hf.machine]
  cases hheard with
  | inr hdone => exact .inr hdone
  | inl hnot =>
      cases hnot with
      | inl hq => exact .inl (.inl (by rw [hf.queued]; exact hq))
      | inr hrecv =>
          obtain ⟨c, q, hloc⟩ := hrecv
          have hloc' : d'.loc = .handling .recv c q := by
            rw [← Loc.erase_eq_handling, hf.loc, Loc.erase_eq_handling]
            exact hloc
          exact .inl (.inr ⟨c, q, hloc'⟩)

/-- A report may be dropped only while one is on its way. -/
theorem NoneLost.report {d d' : Daemon} (h : NoneLost d) {queued : Bool}
    (hkeep : d.queued = true → queued = true)
    (hqueued : queued = true ∨ ∃ t q, d.loc = .handling .recv t q)
    (hd : d' = { d with queued := queued, log := d.log ++ [.reported d.clock] }) :
    NoneLost d' := by
  intro pre t post hlog
  subst hd
  cases History.concat_eq_append_cons.mp hlog with
  | inl hnew =>
      obtain ⟨-, ht, -⟩ := hnew
      have hclock : d.clock = t := by simpa using ht
      exact ⟨Nat.le_of_eq hclock.symm, .inl hqueued⟩
  | inr hold =>
      obtain ⟨post', rfl, hlog'⟩ := hold
      obtain ⟨ht, hheard⟩ := h pre t post' hlog'
      refine ⟨ht, ?_⟩
      cases hheard with
      | inr hdone =>
          obtain ⟨r, hr, hans⟩ := hdone
          exact .inr ⟨r, by simp [hr], hans⟩
      | inl hnot =>
          cases hnot with
          | inl hq => exact .inl (.inl (hkeep hq))
          | inr hrecv => exact .inl (.inr hrecv)

theorem NoneLost.take {d : Daemon} (h : NoneLost d) (hloc : d.loc = .select) (b : Branch) :
    NoneLost (d.take b) := by
  intro pre t post hlog
  rw [log_take] at hlog
  obtain ⟨ht, hheard⟩ := h pre t post hlog
  rw [clock_take, machine_take]
  refine ⟨ht, ?_⟩
  cases hheard with
  | inr hdone => exact .inr hdone
  | inl hnot =>
      by_cases hb : b = .recv
      · exact .inl (.inr ⟨d.clock, d.queued, by rw [hb]; rfl⟩)
      · cases hnot with
        | inl hq =>
            have hq' : (d.take b).queued = true := by rw [queued_take, if_neg hb, hq]
            exact .inl (.inl hq')
        | inr hrecv =>
            obtain ⟨c, q, hrecv⟩ := hrecv
            simp [hloc] at hrecv

theorem NoneLost.exec {d : Daemon} (h : NoneLost d) (hnow : d.machine.lastActivity ≤ d.clock)
    {a : Answers} {e : Event} {c : Instant} {q : Bool} (hruns : Runs a d.loc e c q) :
    NoneLost (d.exec a e c q) := by
  intro pre t post hlog
  rw [log_exec] at hlog
  cases History.concat_eq_append_cons.mp hlog with
  | inl hnew => simp at hnew
  | inr hold =>
      obtain ⟨post', rfl, hlog'⟩ := hold
      obtain ⟨ht, hheard⟩ := h pre t post' hlog'
      refine ⟨ht, ?_⟩
      rw [handledOf_append]
      cases hheard with
      | inr hdone =>
          obtain ⟨r, hr, hevent, htime, hlast, hafter⟩ := hdone
          have hlast' : r.time ≤ (d.exec a e c q).machine.lastActivity := by
            have hkeep := Machine.lastActivity_handle (d.env a) e d.machine
            simp only [Daemon.exec, hkeep]
            split
            · exact Nat.le_trans hlast hnow
            · exact hlast
          exact .inr ⟨r, List.mem_append_left _ hr, hevent, htime, hlast', hafter⟩
      | inl hnot =>
          cases hnot with
          | inl hq => exact .inl (.inl hq)
          | inr hrecv =>
              obtain ⟨c', q', hloc⟩ := hrecv
              rw [hloc] at hruns
              cases hruns with
              | activity =>
                  have hans : AnsweredIn t (d.exec a .activity c q).machine
                      (d.record a .activity c q) := by
                    refine ⟨rfl, ht, ?_, ?_⟩
                    · simp [Daemon.exec, record, Machine.handle, env]
                    · simp [record, Machine.handle]
                  exact .inr ⟨_, by simp [handledOf], hans⟩

theorem noneLost_of_reachable {d : Daemon} (h : loop.Reachable d) : NoneLost d := by
  refine h.invariant ?_ ?_
  · intro s hs
    exact noneLost_init hs
  · intro d l d' hreach ih hstep
    cases step_moved hstep with
    | outside _ hf => exact ih.frame hf
    | reported queued _ hkeep hqueued => exact ih.report hkeep hqueued rfl
    | chose hloc => exact ih.take hloc _
    | ran hc => exact ih.exec (now_of_reachable hreach) (current_runs hc)
    | finished hloc =>
        intro pre t post hlog
        obtain ⟨ht, hheard⟩ := ih pre t post hlog
        refine ⟨ht, ?_⟩
        cases hheard with
        | inr hdone => exact .inr hdone
        | inl hnot =>
            cases hnot with
            | inl hq => exact .inl (.inl hq)
            | inr hrecv => simp [hloc] at hrecv
    | left hloc =>
        intro pre t post hlog
        obtain ⟨ht, hheard⟩ := ih pre t post hlog
        refine ⟨ht, ?_⟩
        cases hheard with
        | inr hdone =>
            have hlast : ∀ env, (d.machine.shutdown env).lastActivity = d.machine.lastActivity := by
              simp [Machine.shutdown, Machine.request]
            simpa only [AnsweredIn, hlast] using .inr hdone
        | inl hnot =>
            cases hnot with
            | inl hq => exact .inl (.inl hq)
            | inr hrecv => simp [hloc] at hrecv

/-- **No wake-up is lost**: in every reachable state a notification is queued or
has just been received, or `on_activity` was run after the last report; so at
the `select!` with an empty channel `last_activity` is no earlier than any
report, and the machine has returned to active since. -/
theorem coalescing_loses_no_wakeup {d : Daemon} (h : loop.Reachable d) (pre : List Happening)
    (t : Instant) (post : List Happening) (hlog : d.log = pre ++ .reported t :: post) :
    (d.Notified ∨ ∃ r ∈ handledOf post, r.event = .activity) ∧
      (d.queued = false → d.loc = .select →
        t ≤ d.machine.lastActivity ∧
          ∃ r ∈ handledOf post, r.event = .activity ∧ t ≤ r.time ∧ r.after = .active) := by
  obtain ⟨-, hheard⟩ := noneLost_of_reachable h pre t post hlog
  constructor
  · cases hheard with
    | inl hnot => exact .inl hnot
    | inr hdone =>
        obtain ⟨r, hr, hans⟩ := hdone
        exact .inr ⟨r, hr, hans.1⟩
  · intro hempty hloc
    cases hheard with
    | inl hnot =>
        cases hnot with
        | inl hq => simp [hempty] at hq
        | inr hrecv => simp [hloc] at hrecv
    | inr hdone =>
        obtain ⟨r, hr, hevent, htime, hlast, hafter⟩ := hdone
        exact ⟨Nat.le_trans htime hlast, r, hr, hevent, htime, hafter⟩

/-- Two reports, of which the second is dropped, and the `on_activity` that
answers both. -/
theorem coalescing_loses_no_wakeup_fresh :
    ∃ d h, loop.run fresh
        [.trySend (.evdev "/dev/input/event3") false, .tick 5,
          .trySend (.hidraw "/dev/hidraw0") false, .finish, .choose .recv, .start {}, .finish] =
        some d ∧
      d.log = [.reported 0, .reported 5, .handled h] ∧ 5 ≤ d.machine.lastActivity := by
  have hrun : loop.run fresh
      [.trySend (.evdev "/dev/input/event3") false, .tick 5,
        .trySend (.hidraw "/dev/hidraw0") false, .finish, .choose .recv, .start {}, .finish] =
      some _ := rfl
  have hreach : loop.Reachable _ := ⟨fresh, _, init_fresh, hrun⟩
  have hanswered := (coalescing_loses_no_wakeup hreach [.reported 0] 5 _ rfl).2 rfl rfl
  exact ⟨_, _, hrun, rfl, hanswered.1⟩

/-! ## input against the timer -/

/-- A timer event that took the machine deeper into blanking. -/
def TimerBlanks (h : Handled) : Prop :=
  h.event.isTimeout = true ∧ h.before ≠ h.after ∧ h.after ≠ .active

/-- No timer event went deeper into blanking whose branch was chosen while a
notification was queued. -/
def InputFirst (d : Daemon) : Prop := ∀ h ∈ d.handled, TimerBlanks h → h.queued = false

/-- The `select!` may choose the timer here, and its handler may go deeper into
blanking. -/
def TimerMayBlank (d : Daemon) : Prop :=
  ∃ d₁ d₂ a, d.step (.choose .timer) = some d₁ ∧ d₁.step (.start a) = some d₂ ∧
    d₂.machine.state ≠ d.machine.state ∧ d₂.machine.state ≠ .active

/-- No deadline has passed, or the screen is black already. -/
def NothingToBlank (d : Daemon) : Prop := d.clock < d.deadline ∨ d.machine.state = .black

/-- Whenever a branch is chosen while a notification is queued, no deadline has
passed or the screen is black. -/
def NoRace (d : Daemon) : Label → Prop
  | .choose _ => d.queued = true → d.NothingToBlank
  | _ => True

/-- The choice of the timer and its handler, with no inhibitor held. -/
theorem timerMayBlank_of_due {d : Daemon} (hloc : d.loc = .select) (hdue : d.deadline ≤ d.clock)
    (hs : d.machine.state ≠ .black) : d.TimerMayBlank := by
  have hchoose : d.step (.choose .timer) = some (d.take .timer) := by
    simp [step, choose, hloc, ready, hdue]
  have hstart : (d.take .timer).step (.start {}) =
      some ((d.take .timer).exec {} (.timeout none none) d.clock d.queued) := rfl
  refine ⟨_, _, {}, hchoose, hstart, ?_⟩
  have hm : ((d.take .timer).exec {} (.timeout none none) d.clock d.queued).machine =
      d.machine.onTimeout (d.env {}) none none := rfl
  rw [hm]
  cases hstate : d.machine.state with
  | active =>
      by_cases hwarn : d.machine.cfg.dimWarningSecs = 0
      · simp [Machine.onTimeout, Machine.idleInhibited, hstate, hwarn]
      · simp [Machine.onTimeout, Machine.idleInhibited, hstate, hwarn]
  | dim => simp [Machine.onTimeout, hstate]
  | black => contradiction

/-- With a notification queued the timer can blank exactly when its deadline has
passed and the screen is not black yet. -/
theorem not_timerMayBlank_iff {d : Daemon} (hloc : d.loc = .select) :
    ¬ d.TimerMayBlank ↔ d.NothingToBlank := by
  constructor
  · intro h
    by_cases hs : d.machine.state = .black
    · exact .inr hs
    · by_cases hdue : d.deadline ≤ d.clock
      · exact absurd (timerMayBlank_of_due hloc hdue hs) h
      · exact .inl (Nat.lt_of_not_le hdue)
  · intro h hblank
    obtain ⟨d₁, d₂, a, hchoose, hstart, hne, -⟩ := hblank
    cases step_moved hchoose with
    | outside hl => simp [Label.isDaemon] at hl
    | chose _ hready =>
        have hdue : d.deadline ≤ d.clock := by simpa [ready] using hready
        cases h with
        | inl hclock => exact absurd hdue (Nat.not_le_of_lt hclock)
        | inr hblack =>
            have hd₂ : (d.take .timer).exec a (.timeout a.inhibit a.screensaver) d.clock d.queued =
                d₂ := by simpa [step, start, current, take] using hstart
            rw [← hd₂] at hne
            simp [Daemon.exec, Machine.handle, Machine.onTimeout, hblack] at hne

/-- No timer has gone, or is going, deeper into blanking past a notification. -/
structure Raceless (d : Daemon) : Prop where
  first : d.InputFirst
  timer : ∀ t, d.loc = .handling .timer t true → d.machine.state = .black

theorem raceless_of_handled {d d' : Daemon} (h : Raceless d) (hhandled : d'.handled = d.handled)
    (htimer : ∀ t, d'.loc = .handling .timer t true → d'.machine.state = .black) :
    Raceless d' := by
  constructor
  · unfold InputFirst
    rw [hhandled]
    exact h.first
  · exact htimer

theorem raceless_step {d d' : Daemon} {l : Label} (hP : NoRace d l) (h : Raceless d)
    (hstep : d.step l = some d') : Raceless d' := by
  cases step_moved hstep with
  | outside _ hf =>
      refine raceless_of_handled h hf.handled ?_
      intro t hloc
      rw [← Loc.erase_eq_handling, hf.loc, Loc.erase_eq_handling] at hloc
      rw [hf.machine]
      exact h.timer t hloc
  | reported => exact raceless_of_handled h (by simp [Daemon.handled, handledOf]) h.timer
  | chose _ hready =>
      refine raceless_of_handled h (by simp [Daemon.handled]) ?_
      intro t hloc
      obtain ⟨rfl, -, hq⟩ := handling_of_take hready hloc
      have hdue : d.deadline ≤ d.clock := by simpa [ready] using hready
      rw [machine_take]
      cases hP hq with
      | inl hclock => exact absurd hdue (Nat.not_le_of_lt hclock)
      | inr hblack => exact hblack
  | @ran a e t q hc =>
      constructor
      · intro r hr hblanks
        rw [handled_exec, List.mem_append, List.mem_singleton] at hr
        cases hr with
        | inl hr => exact h.first r hr hblanks
        | inr hr =>
            subst hr
            obtain ⟨htime, hne, -⟩ := hblanks
            have hloc := (current_runs hc).of_isTimeout htime
            cases q with
            | false => rfl
            | true =>
                have hblack := h.timer t hloc
                cases e with
                | timeout inhibit screensaver =>
                    simp [record, Machine.handle, Machine.onTimeout, hblack] at hne
                | _ => simp [record, Event.isTimeout] at htime
      · intro t hloc
        contradiction
  | finished => exact raceless_of_handled h rfl fun t hloc => by contradiction
  | left => exact raceless_of_handled h rfl fun t hloc => by contradiction

/-- **Input against the timer**: at a `select!` with a notification queued the
timer cannot blank exactly when no deadline has passed or the screen is black;
and in a run where every choice with a notification queued is made so, no timer
ever blanks past a queued notification. -/
theorem queued_input_beats_timer {d₀ d : Daemon} {ls : List Label} (hinit : loop.init d₀)
    (hrun : loop.run d₀ ls = some d) :
    (d.loc = .select → d.queued = true → (¬ d.TimerMayBlank ↔ d.NothingToBlank)) ∧
      (loop.Along NoRace d₀ ls → d.InputFirst) := by
  constructor
  · intro hloc _
    exact not_timerMayBlank_iff hloc
  · intro hraces
    have hraceless : Raceless d := by
      refine hraces.invariant ?_ ?_ hinit hrun
      · intro s hs
        constructor
        · simp [InputFirst, handled_of_init hs]
        · intro t hloc
          simp [Init.loc hs] at hloc
      · intro s l t _ hP ih hstep
        exact raceless_step hP ih hstep
    exact hraceless.first

/-- The timer dims, input is reported and handled while dimmed, and reported again. -/
def wokenWhileDim : List Label :=
  [.finish, .tick 300000000000, .choose .timer, .start {}, .finish,
    .trySend (.evdev "/dev/input/event3") false, .choose .recv, .start {}, .finish,
    .trySend (.evdev "/dev/input/event3") false]

/-- The timer blanks with nothing queued, the report is chosen before the deadline of the
dim warning, and the timer cannot be chosen while the last one waits. -/
theorem queued_input_beats_timer_fresh :
    ∃ d h h', loop.run fresh wokenWhileDim = some d ∧ d.handled = [h, h'] ∧ TimerBlanks h ∧
      ¬ d.TimerMayBlank ∧ d.InputFirst := by
  have hrun : loop.run fresh wokenWhileDim = some _ := rfl
  have hraces : loop.Along NoRace fresh wokenWhileDim := by
    -- the timer is chosen with nothing queued, and the report before the next deadline
    refine .cons trivial rfl (.cons trivial rfl (.cons (fun hqueued => by contradiction) rfl ?_))
    refine .cons trivial rfl (.cons trivial rfl (.cons trivial rfl ?_))
    refine .cons (fun _ => .inl (by decide)) rfl ?_
    exact .cons trivial rfl (.cons trivial rfl (.cons trivial rfl trivial))
  have hboth := queued_input_beats_timer init_fresh hrun
  exact ⟨_, _, _, hrun, rfl, ⟨rfl, by decide, by decide⟩, (hboth.1 rfl rfl).mpr (.inl (by decide)),
    hboth.2 hraces⟩

/-- Input is reported at the very deadline, and the `select!` chooses the timer. -/
theorem timer_beats_queued_input :
    ∃ d, loop.run fresh
        [.finish, .tick 300000000000, .trySend (.evdev "/dev/input/event3") false,
          .choose .timer, .start {}] = some d ∧
      d.machine.state = .dim ∧ ¬ d.InputFirst := by
  have hrun : loop.run fresh
      [.finish, .tick 300000000000, .trySend (.evdev "/dev/input/event3") false,
        .choose .timer, .start {}] = some _ := rfl
  refine ⟨_, hrun, rfl, ?_⟩
  intro hfirst
  have hblanks : TimerBlanks
      { event := .timeout none none, chosen := 300000000000, time := 300000000000, queued := true
        before := .active, after := .dim } := ⟨rfl, by decide, by decide⟩
  have hqueued := hfirst _ (List.mem_singleton.mpr rfl) hblanks
  contradiction

end Daemon

end GamescopeIdle
