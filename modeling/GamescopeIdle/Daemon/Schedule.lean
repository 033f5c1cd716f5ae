import GamescopeIdle.Daemon.Timing
import Mathlib.Data.List.DropRight

/-!
# GamescopeIdle.Daemon.Schedule

The main loop on time: between explicit blanks the clock alone decides the state.

`TimerLaw` says that the timer is never early.  Here it is never late either: a
loop that waits, its deadline not reached, is in the state that the last event
which restarted the idle timer and the event that opened the dim window call for
(`expected`).
-/

namespace GamescopeIdle

open Handled (stateAfter)

/-! ## what the clock calls for -/

namespace Handled

/-- When the idle timer was last restarted, `start` if no event has. -/
def lastRefresh (start : Instant) (hs : List Handled) : Instant :=
  hs.foldl (fun t h => if h.refreshes = true then h.time else t) start

/-- The events since the idle timer was last restarted. -/
def stretch (hs : List Handled) : List Handled := hs.rtakeWhile fun h => !h.refreshes

/-- The event opens the dim window. -/
def opens (h : Handled) : Bool := h.before == .active && h.after == .dim

/-- The event that has opened the dim window since then. -/
def opening (hs : List Handled) : Option Handled := (stretch hs).find? opens

/-- No explicit blank since the idle timer was last restarted. -/
def Unforced (hs : List Handled) : Prop := ∀ h ∈ stretch hs, h.event.blanks = false

instance (hs : List Handled) : Decidable (Unforced hs) :=
  inferInstanceAs (Decidable (∀ h ∈ stretch hs, h.event.blanks = false))

/-- The state that the clock calls for, in a loop that started with machine `s`. -/
def expected (s : Machine) (hs : List Handled) (clock : Instant) : State :=
  if clock < lastRefresh s.lastActivity hs + s.cfg.idleTimeout then .active
  else
    match opening hs with
    | some o => if clock < o.time + s.cfg.dimWarning then .dim else .black
    | none => .black

theorem lastRefresh_concat (start : Instant) (hs : List Handled) (h : Handled) :
    lastRefresh start (hs ++ [h]) =
      if h.refreshes = true then h.time else lastRefresh start hs := by
  simp [lastRefresh]

theorem stretch_of_refreshes {h : Handled} (hr : h.refreshes = true) (hs : List Handled) :
    stretch (hs ++ [h]) = [] :=
  List.rtakeWhile_concat_neg _ _ _ (by simp [hr])

theorem stretch_of_not_refreshes {h : Handled} (hr : h.refreshes = false) (hs : List Handled) :
    stretch (hs ++ [h]) = stretch hs ++ [h] :=
  List.rtakeWhile_concat_pos _ _ _ (by simp [hr])

theorem opening_of_refreshes {h : Handled} (hr : h.refreshes = true) (hs : List Handled) :
    opening (hs ++ [h]) = none := by
  rw [opening, stretch_of_refreshes hr]
  rfl

/-- Only the first event that opens the window counts. -/
theorem opening_of_not_refreshes {h : Handled} (hr : h.refreshes = false) (hs : List Handled) :
    opening (hs ++ [h]) = (opening hs).or (if h.opens = true then some h else none) := by
  rw [opening, stretch_of_not_refreshes hr, List.find?_append]
  congr 1
  cases hopens : h.opens <;> simp [hopens]

theorem unforced_of_not_refreshes {h : Handled} (hr : h.refreshes = false) {hs : List Handled}
    (hno : Unforced (hs ++ [h])) : Unforced hs ∧ h.event.blanks = false := by
  rw [Unforced, stretch_of_not_refreshes hr] at hno
  exact ⟨fun r hmem => hno r (by simp [hmem]), hno h (by simp)⟩

end Handled

namespace Machine

/-- After an event that restarts the idle timer the machine is active. -/
theorem state_handle_of_refreshes {env : Env} {e : Event} {m : Machine}
    (h : e.refreshes m.state = true) : (m.handle env e).state = .active := by
  generalize hm : m.handle env e = m'
  cases handle_outcome hm with
  | idle hwake hinh =>
      have hact : m.state = .active := by
        simp only [Event.refreshes, hwake, Bool.false_or, Bool.and_eq_true, beq_iff_eq] at h
        exact h.2
      simp [Event.refreshes, hwake, hinh hact] at h
  | refreshed hact => exact hact
  | woken => exact state_wake _ _
  | dimmed htime _ hinh => simp [Event.refreshes, Event.wakes_of_isTimeout htime, hinh] at h
  | blackened hb =>
      rcases hb with ⟨htime, hdim | ⟨-, hinh, -⟩⟩ | ⟨hb, -⟩
      · simp [Event.refreshes, Event.wakes_of_isTimeout htime, hdim] at h
      · simp [Event.refreshes, Event.wakes_of_isTimeout htime, hinh] at h
      · simp [Event.refreshes_of_blanks hb] at h

end Machine

open Handled (lastRefresh stretch opening Unforced expected)

namespace Daemon

/-! ## the invariant -/

/-- The machine is where the events since the last restart of its idle timer have
brought it, none of them an explicit blank. -/
inductive Scheduled (s : Machine) (hs : List Handled) (clock : Instant) (m : Machine) : Prop
  | active (hstate : m.state = .active) (hnone : opening hs = none)
  | dim {o : Handled} (hstate : m.state = .dim)
      (hidle : lastRefresh s.lastActivity hs + s.cfg.idleTimeout ≤ clock)
      (ho : opening hs = some o) (hend : m.dimDeadline = o.time + s.cfg.dimWarning)
  | black (hstate : m.state = .black)
      (hidle : lastRefresh s.lastActivity hs + s.cfg.idleTimeout ≤ clock)
      (hend : ∀ o, opening hs = some o → o.time + s.cfg.dimWarning ≤ clock)

/-- The machine's instants are those of the history, and so is the deadline. -/
structure OnTime (s : Machine) (d : Daemon) : Prop where
  refreshed : d.machine.lastActivity = lastRefresh s.lastActivity d.handled
  select : d.loc = .select → d.machine.state ≠ .black → d.deadline = nextDeadline d.machine 0
  schedule : d.Running → Unforced d.handled → Scheduled s d.handled d.clock d.machine

theorem Scheduled.mono {s : Machine} {hs : List Handled} {t u : Instant} {m : Machine}
    (h : Scheduled s hs t m) (htu : t ≤ u) : Scheduled s hs u m := by
  cases h with
  | active hstate hnone => exact .active hstate hnone
  | dim hstate hidle ho hend => exact .dim hstate (Nat.le_trans hidle htu) ho hend
  | black hstate hidle hend =>
      exact .black hstate (Nat.le_trans hidle htu) fun o ho => Nat.le_trans (hend o ho) htu

theorem nextDeadline_of_not_black {m : Machine} (h : m.state ≠ .black) (now now' : Instant) :
    nextDeadline m now = nextDeadline m now' := by
  cases hs : m.state with
  | black => exact absurd hs h
  | _ => simp [nextDeadline, hs]

theorem onTime_init {d : Daemon} (h : Init d) : OnTime d.machine d where
  refreshed := by
    rw [handled_of_init h]
    rfl
  select hloc := by simp [h.loc] at hloc
  schedule _ _ := by
    obtain ⟨cfg, overlay, pathExists, dev, lastActivity, dimDeadline, hm⟩ := h.machine
    refine .active ?_ ?_
    · rw [hm]
      rfl
    · rw [handled_of_init h]
      rfl

/-- Only handlers and the clock matter. -/
theorem OnTime.of_same {s : Machine} {d d' : Daemon} (h : OnTime s d)
    (hmachine : d'.machine = d.machine) (hhandled : d'.handled = d.handled)
    (hclock : d.clock ≤ d'.clock) (hrun : d'.Running → d.Running)
    (hselect : d'.loc = .select → d'.machine.state ≠ .black →
      d'.deadline = nextDeadline d'.machine 0) : OnTime s d' where
  refreshed := by
    rw [hmachine, hhandled]
    exact h.refreshed
  select := hselect
  schedule hrun' hno := by
    rw [hmachine, hhandled]
    rw [hhandled] at hno
    exact (h.schedule (hrun hrun') hno).mono hclock

theorem refreshes_record (a : Answers) (e : Event) (t : Instant) (q : Bool) (d : Daemon) :
    (d.record a e t q).refreshes = e.refreshes d.machine.state := rfl

/-- An event that does not restart the idle timer, and is no explicit blank, moves
the machine on, and a timer only once it is due. -/
theorem scheduled_record {s : Machine} {d : Daemon} (hcfg : d.machine.cfg = s.cfg)
    (hlast : d.machine.lastActivity = lastRefresh s.lastActivity d.handled) {a : Answers}
    {e : Event} {t : Instant} {q : Bool} (hdue : e.isTimeout = true → d.machine.Due d.clock)
    (hblanks : e.blanks = false) (hno : e.refreshes d.machine.state = false)
    (h : Scheduled s d.handled d.clock d.machine) :
    Scheduled s (d.handled ++ [d.record a e t q]) d.clock (d.machine.handle (d.env a) e) := by
  have hrefreshes : (d.record a e t q).refreshes = false := hno
  have hopening := Handled.opening_of_not_refreshes hrefreshes d.handled
  have hlast' : lastRefresh s.lastActivity (d.handled ++ [d.record a e t q]) =
      lastRefresh s.lastActivity d.handled := by
    rw [Handled.lastRefresh_concat, if_neg (by simp [hrefreshes])]
  have hopens : (d.record a e t q).opens =
      (d.machine.state == .active && (d.machine.handle (d.env a) e).state == .dim) := rfl
  generalize hm : d.machine.handle (d.env a) e = m' at hopens
  cases Machine.handle_outcome hm with
  | idle =>
      have hsame : (d.record a e t q).opens = false := by
        rw [hopens]
        cases d.machine.state <;> rfl
      rw [hsame, if_neg (by decide), Option.or_none] at hopening
      cases h with
      | active hstate hnone => exact .active hstate (hopening.trans hnone)
      | dim hstate hidle ho hend =>
          rw [← hlast'] at hidle
          exact .dim hstate hidle (hopening.trans ho) hend
      | black hstate hidle hend =>
          rw [← hlast'] at hidle
          refine .black hstate hidle ?_
          rw [hopening]
          exact hend
  | refreshed hact hr =>
      cases hr with
      | inl hwake => simp [Event.refreshes, hwake] at hno
      | inr hinh => simp [Event.refreshes, hinh, hact] at hno
  | woken hwake => simp [Event.refreshes, hwake] at hno
  | dimmed htime hact =>
      have hidle := (hdue htime).1 hact
      rw [hlast, hcfg, ← hlast'] at hidle
      have hyes : (d.record a e t q).opens = true := by
        rw [hopens, hact]
        rfl
      have hnone : opening d.handled = none := by
        cases h with
        | active _ hnone => exact hnone
        | dim hstate => simp [hact] at hstate
        | black hstate => simp [hact] at hstate
      rw [hyes, if_pos rfl, hnone, Option.none_or] at hopening
      refine .dim rfl hidle hopening ?_
      rw [Machine.dimDeadline_enterDim, hcfg]
      rfl
  | blackened hb =>
      have hsame : (d.record a e t q).opens = false := by
        rw [hopens]
        simp
      rw [hsame, if_neg (by decide), Option.or_none] at hopening
      rcases hb with ⟨htime, hstate⟩ | ⟨hyes, -⟩
      · cases h with
        | active hact hnone =>
            have hidle := (hdue htime).1 hact
            rw [hlast, hcfg, ← hlast'] at hidle
            refine .black rfl hidle ?_
            rw [hopening, hnone]
            exact fun o ho => by contradiction
        | dim hdim hidle ho hend =>
            have hpassed := (hdue htime).2 hdim
            rw [hend] at hpassed
            rw [← hlast'] at hidle
            refine .black rfl hidle ?_
            rw [hopening, ho]
            rintro o' ho'
            obtain rfl := Option.some.inj ho'
            exact hpassed
        | black hblack => simp [hblack] at hstate
      · rw [hblanks] at hyes
        contradiction

theorem OnTime.exec {s : Machine} {d : Daemon} (h : OnTime s d) (htimely : Timely s d)
    {a : Answers} {e : Event} {t : Instant} {q : Bool} (hc : d.current a = some (e, t, q)) :
    OnTime s (d.exec a e t q) where
  refreshed := by
    rw [handled_exec, Handled.lastRefresh_concat, refreshes_record]
    refine (Machine.lastActivity_handle (d.env a) e d.machine).trans ?_
    rw [h.refreshed]
    rfl
  select hloc := by contradiction
  schedule _ hno := by
    have hruns := current_runs hc
    have hrun : d.Running := by
      intro hstop
      simp [current, hstop] at hc
    rw [handled_exec] at hno ⊢
    cases hr : (d.record a e t q).refreshes with
    | true =>
        refine .active (Machine.state_handle_of_refreshes hr) ?_
        exact Handled.opening_of_refreshes hr d.handled
    | false =>
        obtain ⟨hunforced, hblanks⟩ := Handled.unforced_of_not_refreshes hr hno
        -- a timer that runs was due when it was chosen
        have hdue : e.isTimeout = true → d.machine.Due d.clock := by
          intro htime
          refine (htimely.timer t q (hruns.of_isTimeout htime)).mono ?_
          exact htimely.chosen t hruns.chosen
        exact scheduled_record htimely.cfg h.refreshed hdue hblanks hr (h.schedule hrun hunforced)

/-- Every step keeps the loop on time. -/
theorem onTime_step {s : Machine} {d d' : Daemon} {l : Label} (h : OnTime s d)
    (htimely : Timely s d) (hstep : d.step l = some d') : OnTime s d' := by
  cases step_moved hstep with
  | outside _ hf =>
      refine h.of_same hf.machine hf.handled hf.clock hf.running ?_
      intro hloc hblack
      rw [← Loc.erase_eq_select, hf.loc, Loc.erase_eq_select] at hloc
      rw [hf.machine] at hblack ⊢
      rw [hf.deadline]
      exact h.select hloc hblack
  | reported _ hrun =>
      refine h.of_same rfl ?_ (Nat.le_refl _) (fun _ => hrun) h.select
      simp [Daemon.handled, handledOf]
  | chose hloc hready =>
      refine h.of_same (machine_take _ _) ?_ (Nat.le_of_eq (clock_take _ _).symm) ?_ ?_
      · simp [Daemon.handled]
      · exact fun _ hstop => by simp [hloc] at hstop
      · intro hsel
        have htaken := loc_take hready
        rw [hsel] at htaken
        cases htaken
  | ran hc => exact h.exec htimely hc
  | finished hloc =>
      refine h.of_same rfl rfl (Nat.le_refl _) (fun _ hstop => by simp [hloc] at hstop) ?_
      exact fun _ hblack => nextDeadline_of_not_black hblack _ _
  | left hloc =>
      constructor
      · refine Eq.trans ?_ h.refreshed
        simp [Machine.shutdown, Machine.request]
      · exact fun hsel => by contradiction
      · exact fun hrun => absurd rfl hrun

theorem onTime_of_run {d₀ d : Daemon} {ls : List Label} (hinit : loop.init d₀)
    (hrun : loop.run d₀ ls = some d) : OnTime d₀.machine d ∧ Timely d₀.machine d := by
  refine loop.run_invariant (I := fun d => OnTime d₀.machine d ∧ Timely d₀.machine d)
    ⟨onTime_init hinit, timely_init hinit⟩ ?_ hrun
  intro d l d' h hstep
  exact ⟨onTime_step h.1 h.2 hstep, timely_step h.2 hstep⟩

/-! ## a loop that waits -/

/-- The loop is in its select, and its timer has not fired. -/
def Waits (d : Daemon) : Prop := d.loc = .select ∧ d.clock < d.deadline

/-- **A loop that waits is in the state that the clock calls for**, unless there
was an explicit blank since the idle timer was last restarted. -/
theorem state_eq_expected {d₀ d : Daemon} {ls : List Label} (hinit : loop.init d₀)
    (hrun : loop.run d₀ ls = some d) (hwaits : d.Waits) (hno : Unforced d.handled) :
    d.machine.state = expected d₀.machine d.handled d.clock := by
  obtain ⟨honTime, htimely⟩ := onTime_of_run hinit hrun
  obtain ⟨hloc, hbefore⟩ := hwaits
  have hrun : d.Running := by simp [Running, hloc]
  unfold expected
  cases honTime.schedule hrun hno with
  | active hstate hnone =>
      rw [honTime.select hloc (by simp [hstate])] at hbefore
      simp only [nextDeadline, hstate, honTime.refreshed, htimely.cfg] at hbefore
      rw [if_pos hbefore, hstate]
  | dim hstate hidle ho hend =>
      rw [honTime.select hloc (by simp [hstate])] at hbefore
      simp only [nextDeadline, hstate, hend] at hbefore
      rw [if_neg (Nat.not_lt.mpr hidle), ho]
      simp only [if_pos hbefore, hstate]
  | black hstate hidle hend =>
      rw [if_neg (Nat.not_lt.mpr hidle), hstate]
      cases ho : opening d.handled with
      | none => rfl
      | some o => simp only [if_neg (Nat.not_lt.mpr (hend o ho))]

end Daemon

end GamescopeIdle
