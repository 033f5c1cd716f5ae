import GamescopeIdle.Lib.Backoff
import GamescopeIdle.Panel.Wake

/-!
# GamescopeIdle.Panel.Backoff

The reconnect loop of the overlay threads on the daemon's clock: `backoff`, the
`thread::sleep` between two attempts, and its doubling.

* The thread keeps its distance: whatever the compositor, the daemon and the clock
  do, attempts to connect are at least 200 ms apart and every sleep is as long as
  the failures since the last connection call for (`thread_keeps_distance`).
* It is never far away either: wherever a run has left the daemon and the thread,
  once connecting succeeds the panel can show the machine's state within the three
  seconds of the longest sleep, or with the `configure` that the compositor owes it
  (`panel_recovers`).
-/

namespace GamescopeIdle

open Backoff (Act Entry Retrying Stage Timed Turn paced sleeps tries)
open Reconnect (Driven DrivenLabel Phase Stops driven)

/-! ## the loop of `overlay_thread` -/

/-- `Duration::from_millis`. -/
def Duration.fromMillis (millis : UInt64) : Duration := millis.toNat * 1000000

/-- `backoff` in `overlay_thread`. -/
def overlayBackoff : Backoff where
  first := Duration.fromMillis 200
  longest := Duration.fromSecs 3
  first_pos := by decide
  first_le := by decide

section

variable {V W X C : Type*}

/-- What a step of the system is to the loop of `overlay_thread`. -/
def threadAct (s : Driven Daemon Display V W) : DrivenLabel Label Display X C → Act
  | .worker .test => if s.system.flag then .other else .attempt
  | .worker .uninstall => .reset
  | .worker .retest => if s.system.flag then .other else .sleep
  | .worker .wake => .wake
  | _ => .other

/-- Where the loop of `overlay_thread` is. -/
def threadStage : Phase V W → Stage
  | .test => .ready
  | .sleeping => .asleep
  | .terminated => .ended
  | _ => .trying

theorem stage_of_receives {p : Phase V W} (h : p.receives = true) : threadStage p = .trying := by
  cases p <;> first | rfl | contradiction

namespace Daemon

variable {B : Worker Display V W X C}

theorem clock_step {d d' : Daemon} {l : Label} (h : d.step l = some d') : d.clock ≤ d'.clock := by
  cases step_moved h with
  | outside _ hf => exact hf.clock
  | chose => exact Nat.le_of_eq (clock_take _ _).symm
  | _ => exact Nat.le_refl _

/-- The clock only goes forward. -/
theorem clock_le_of_driven {s t : Driven Daemon Display V W} {l : DrivenLabel Label Display X C}
    (h : (driven driver B).step s l = some t) : s.driver.clock ≤ t.driver.clock := by
  cases Reconnect.driver_of_moved (P := driver) h with
  | inl hsame => exact Nat.le_of_eq (congrArg clock hsame.symm)
  | inr hmoved =>
      obtain ⟨l', hl'⟩ := hmoved
      exact clock_step hl'

/-- What every step does to the loop. -/
theorem threadTurn {s t : Driven Daemon Display V W} {l : DrivenLabel Label Display X C}
    (h : (driven driver B).step s l = some t) :
    Turn (threadAct s l) (threadStage s.system.phase) (threadStage t.system.phase) := by
  have hmoved : Reconnect.DrivenMoved driver B s l t := Reconnect.driven_moved h
  cases hmoved with
  | drove => exact .other
  | began _ hl hy =>
      rcases hl with ⟨r, -, rfl⟩ | ⟨-, rfl⟩ <;> cases Reconnect.step_moved hy <;> exact .other
  | ended hl hy =>
      rcases hl with rfl | rfl
      · cases Reconnect.step_moved hy
        simpa [threadAct] using Turn.other
      · cases Reconnect.step_moved hy
        simpa [threadAct] using Turn.other
  | worked hl hy =>
      cases Reconnect.step_moved hy with
      | tested hphase =>
          cases hflag : s.system.flag with
          | true => simpa [threadAct, hflag, hphase, threadStage] using Turn.ended (by simp)
          | false => simpa [threadAct, hflag, hphase, threadStage] using Turn.attempt
      | retested hphase =>
          cases hflag : s.system.flag with
          | true => simpa [threadAct, hflag, hphase, threadStage] using Turn.ended (by simp)
          | false => simpa [threadAct, hflag, hphase, threadStage] using Turn.sleep
      | uninstalled hphase => simpa [threadAct, hphase, threadStage] using Turn.reset
      | woken hphase => simpa [threadAct, hphase, threadStage] using Turn.wake
      | left hphase =>
          simpa [threadAct, hphase, threadStage, Reconnect.System.drop] using Turn.other
      | failed hphase =>
          rw [stage_of_receives hphase]
          exact .other
      | connected hphase | installed hphase | read hphase | applied hphase | received hphase _
        | external hphase | unreachable hphase =>
          simpa [threadAct, hphase, threadStage] using Turn.other
      | _ => simp [Reconnect.Label.isHandle] at hl

end Daemon

/-- The daemon and its overlay thread, with the loop of `overlay_thread` in them. -/
def retrying (B : Worker Display V W X C) :
    Retrying (Driven Daemon Display V W) (DrivenLabel Label Display X C) where
  auto := driven Daemon.driver B
  clock s := s.driver.clock
  act := threadAct
  stage s := threadStage s.system.phase
  pace := overlayBackoff
  clock_le _ _ _ := Daemon.clock_le_of_driven
  ready s hs := by
    obtain ⟨d, -, rfl⟩ := hs
    rfl
  turn _ _ _ := Daemon.threadTurn

/-! ## the thread keeps its distance -/

/-- In every run, an attempt to connect comes at least 200 ms after all that the loop
did before it; a sleep has the length that the sleeps since the last connection call
for, and is slept in full; and no stretch of time holds more attempts than that. -/
def KeepsDistance (B : Worker Display V W X C) : Prop :=
  ∀ s, (paced (retrying B)).Reachable s →
    (∀ pre t post, s.log = pre ++ .tried t :: post →
      ∀ e ∈ pre, e.time + Duration.fromMillis 200 ≤ t) ∧
    (∀ pre t d post, s.log = pre ++ .slept t d :: post →
      d = min (Duration.fromMillis 200 * 2 ^ sleeps pre) (Duration.fromSecs 3) ∧
        ∀ e ∈ post, t + d ≤ e.time) ∧
    ∀ start span, ((tries s.log).filter fun t => start ≤ t ∧ t ≤ start + span).length ≤
      span / Duration.fromMillis 200 + 1

theorem keepsDistance (B : Worker Display V W X C) : KeepsDistance B := by
  intro s h
  refine ⟨?_, ?_, ?_⟩
  · intro pre t post hl e he
    exact Backoff.paced_tries h hl he
  · intro pre t d post hl
    exact Backoff.paced_sleeps h hl
  · intro start span
    exact Backoff.paced_window h start span

end

/-- **The thread keeps its distance**, in both backends: a compositor that is away,
or that drops every connection, is never pressed. -/
theorem thread_keeps_distance : KeepsDistance layerShell ∧ KeepsDistance x11 :=
  ⟨keepsDistance layerShell, keepsDistance x11⟩

/-- The start of the loop, before the thread has tried to connect. -/
def unconnected {W : Type} : Timed (Driven Daemon Display Float W) :=
  { base := { driver := .fresh, system := { value := 0.0 } }, backoff := overlayBackoff.first }

theorem init_unconnected {W X C : Type} {B : Worker Display Float W X C} (hB : B.initial = 0.0) :
    (paced (retrying B)).init unconnected := by
  refine ⟨?_, rfl⟩
  show (driven Daemon.driver B).init { driver := .fresh, system := { value := 0.0 } }
  exact hB ▸ init_driven_fresh B

/-- Two attempts that fail, with the sleep between them. -/
def failing {X C : Type} : List (DrivenLabel Label Display X C) :=
  [.worker .test, .worker .fail, .worker .retest, .drive (.tick 200000000), .worker .wake,
    .worker .test, .worker .fail, .worker .retest]

/-- After the second failure the thread sleeps for 400 ms. -/
theorem thread_keeps_distance_failing :
    (∃ s, (paced (retrying layerShell)).run unconnected failing = some s ∧
      s.log = [.tried 0, .slept 0 200000000, .tried 200000000, .slept 200000000 400000000] ∧
      400000000 = min (Duration.fromMillis 200 * 2 ^ 1) (Duration.fromSecs 3)) ∧
    ∃ s, (paced (retrying x11)).run unconnected failing = some s ∧
      s.log = [.tried 0, .slept 0 200000000, .tried 200000000, .slept 200000000 400000000] ∧
      400000000 = min (Duration.fromMillis 200 * 2 ^ 1) (Duration.fromSecs 3) := by
  constructor
  · obtain ⟨s, hrun, hlog⟩ : ∃ s, (paced (retrying layerShell)).run unconnected failing = some s ∧
        s.log = [.tried 0, .slept 0 200000000, .tried 200000000, .slept 200000000 400000000] :=
      ⟨_, rfl, rfl⟩
    have hreach : (paced (retrying layerShell)).Reachable s :=
      ⟨unconnected, failing, init_unconnected rfl, hrun⟩
    exact ⟨s, hrun, hlog, ((thread_keeps_distance.1 s hreach).2.1 [.tried 0, .slept 0 200000000,
      .tried 200000000] 200000000 400000000 [] hlog).1⟩
  · obtain ⟨s, hrun, hlog⟩ : ∃ s, (paced (retrying x11)).run unconnected failing = some s ∧
        s.log = [.tried 0, .slept 0 200000000, .tried 200000000, .slept 200000000 400000000] :=
      ⟨_, rfl, rfl⟩
    have hreach : (paced (retrying x11)).Reachable s :=
      ⟨unconnected, failing, init_unconnected rfl, hrun⟩
    exact ⟨s, hrun, hlog, ((thread_keeps_distance.2 s hreach).2.1 [.tried 0, .slept 0 200000000,
      .tried 200000000] 200000000 400000000 [] hlog).1⟩

/-! ## the panel recovers -/

/-- The clock moves, the present handler runs to its end with the system's answers `a`,
its requests are made, the thread gets on, or the other side sends what it owes. -/
def CatchUp {X C : Type*} (a : Answers) (owed : X → Prop) : DrivenLabel Label Display X C → Prop
  | .drive (.tick _) | .drive .finish | .handle => True
  | .drive (.start a') => a' = a
  | .drive _ => False
  | .worker (.external x) => owed x
  | .worker l => l.isProgress = true

namespace Daemon

variable {V W X C : Type*} {B : Worker Display V W X C}

/-- Only the thread's own waking ends its sleep. -/
theorem wake_of_act {s : Driven Daemon Display V W} {l : DrivenLabel Label Display X C}
    (h : (retrying B).act s l = .wake) : l = .worker .wake := by
  replace h : threadAct s l = .wake := h
  cases l with
  | drive | handle => simp [threadAct] at h
  | worker l =>
      cases l with
      | wake => rfl
      | test | retest => cases hflag : s.system.flag <;> simp [threadAct, hflag] at h
      | _ => simp [threadAct] at h

/-- The clock can move while everything else waits. -/
theorem step_tick (s : Driven Daemon Display V W) (n : Duration) :
    (driven driver B).step s (.drive (.tick n)) =
      some { s with driver := { s.driver with clock := s.driver.clock + n } } := by
  have hstep : s.driver.step (.tick n) = some { s.driver with clock := s.driver.clock + n } := rfl
  have hasks : driver.asks s.driver (.tick n) = [] :=
    (asks_driver hstep).trans (Machine.asked_of_same rfl)
  have hauto : driver.auto.step s.driver (.tick n) =
      some { s.driver with clock := s.driver.clock + n } := rfl
  have hout : driver.outside (.tick n) = true := rfl
  simp [driven, Driven.step, hout, hauto, hasks]

variable {Q : DrivenLabel Label Display X C → Prop}

/-- What the thread can do without ending a sleep it can do with its pace. -/
theorem leads_thread {N : Reconnect.Label Display X C → Prop} (hown : ∀ l, N l → l.isHandle = false)
    (hwake : ¬ N .wake) (hQ : ∀ l, N l → Q (.worker l)) {s : Timed (Driven Daemon Display V W)}
    {y : Reconnect.System Display V W} (h : (Reconnect.automaton B).Leads N s.base.system y) :
    ∃ u, (paced (retrying B)).Leads Q s u ∧ u.base = { s.base with system := y } := by
  have hleads : (retrying B).auto.Leads (fun l => ∃ l', l = .worker l' ∧ N l') s.base
      { s.base with system := y } :=
    Reconnect.leads_worker (P := driver) hown (fun l hl => ⟨l, rfl, hl⟩) h
  have hslow : ∀ s l, (∃ l', l = .worker l' ∧ N l') → (retrying B).act s l ≠ .wake := by
    rintro s l ⟨l', rfl, hl⟩ hact
    exact hwake (DrivenLabel.worker.inj (wake_of_act hact) ▸ hl)
  obtain ⟨u, hu, hbase⟩ := Backoff.leads_paced hslow hleads
  refine ⟨u, hu.mono ?_, hbase⟩
  rintro l ⟨l', rfl, hl⟩
  exact hQ l' hl

/-- What the daemon and the thread can do without ending a sleep, they can do with its
pace. -/
theorem leads_unslept {s : Timed (Driven Daemon Display V W)} {t : Driven Daemon Display V W}
    (h : (driven driver B).Leads (fun l => Q l ∧ l ≠ .worker .wake) s.base t) :
    ∃ u, (paced (retrying B)).Leads Q s u ∧ u.base = t := by
  have hslow : ∀ s l, Q l ∧ l ≠ .worker .wake → (retrying B).act s l ≠ .wake := by
    intro s l hl hact
    exact hl.2 (wake_of_act hact)
  obtain ⟨u, hu, hbase⟩ := Backoff.leads_paced (R := retrying B) hslow h
  exact ⟨u, hu.mono fun _ hl => hl.1, hbase⟩

/-- The handler that is under way can end, and the loop get to its `select!`. -/
theorem leads_waiting {a : Answers} (hQ : Own Q a) {s : Timed (Driven Daemon Display V W)}
    (h : (paced (retrying B)).Reachable s) (hrun : s.base.driver.Running)
    (hwedged : ¬ s.base.driver.Wedged) :
    ∃ u, (paced (retrying B)).Leads Q s u ∧ u.base.driver.loc = .select ∧
      u.base.driver.clock = s.base.driver.clock := by
  have hbase : (driven driver B).Reachable s.base := Backoff.reachable_base h
  have hown : Own (fun l => Q l ∧ l ≠ .worker .wake) a :=
    ⟨⟨hQ.start, by simp⟩, ⟨hQ.finish, by simp⟩, ⟨hQ.handle, by simp⟩⟩
  obtain ⟨t, ht, -, hloc, hclock, -⟩ := leads_select hown hbase hrun hwedged
  obtain ⟨u, hu, hubase⟩ := leads_unslept ht
  exact ⟨u, hu, hubase ▸ hloc, hubase ▸ hclock⟩

/-- The steps in which the thread sleeps and time passes. -/
structure Sleeps (Q : DrivenLabel Label Display X C → Prop) : Prop where
  tick : ∀ n, Q (.drive (.tick n))
  uninstall : Q (.worker .uninstall)
  retest : Q (.worker .retest)
  wake : Q (.worker .wake)

/-- A thread that goes to sleep is at its next attempt no later than the longest sleep
from now. -/
theorem leads_test (hQ : Sleeps Q) {s : Timed (Driven Daemon Display V W)}
    (h : (paced (retrying B)).Reachable s) {y : Reconnect.System Display V W}
    (hy : (Reconnect.automaton B).Leads (fun l => l = .uninstall ∨ l = .retest) s.base.system y)
    (hsleeping : y.phase = .sleeping) :
    ∃ u, (paced (retrying B)).Leads Q s u ∧ u.base.system = { y with phase := .test } ∧
      u.base.driver.loc = s.base.driver.loc ∧
      u.base.driver.machine = s.base.driver.machine ∧
      u.base.driver.clock ≤ s.base.driver.clock + Duration.fromSecs 3 := by
  obtain ⟨u, hu, hubase⟩ := leads_thread (Q := Q)
    (by rintro l (rfl | rfl) <;> rfl) (by simp)
    (by rintro l (rfl | rfl); exacts [hQ.uninstall, hQ.retest]) hy
  have hasleep : (retrying B).stage u.base = .asleep := by
    show threadStage u.base.system.phase = .asleep
    rw [hubase, hsleeping]
    rfl
  have hend : u.wakeAt ≤ u.base.driver.clock + Duration.fromSecs 3 :=
    Backoff.wakeAt_le (h.leads hu) hasleep
  -- the rest of the sleep passes, and then it ends
  have htick := Backoff.paced_other (R := retrying B) (s := u)
    (step_tick u.base (u.wakeAt - u.base.driver.clock)) rfl
  generalize hv : ({ u with base := _ } : Timed (Driven Daemon Display V W)) = v at htick
  have hvbase : v.base = { u.base with driver := { u.base.driver with
      clock := u.base.driver.clock + (u.wakeAt - u.base.driver.clock) } } := hv ▸ rfl
  have hvwake : v.wakeAt = u.wakeAt := hv ▸ rfl
  have hstep : (retrying B).auto.step v.base (.worker .wake) =
      some { v.base with system := { y with phase := .test } } := by
    show (driven driver B).step v.base (.worker .wake) = _
    simp [driven, Driven.step, Reconnect.Label.isHandle, Reconnect.System.step, hvbase, hubase,
      hsleeping]
  have hover : v.wakeAt ≤ (retrying B).clock v.base := by
    show v.wakeAt ≤ v.base.driver.clock
    rw [hvwake, hvbase]
    show u.wakeAt ≤ u.base.driver.clock + (u.wakeAt - u.base.driver.clock)
    omega
  have hwake := Backoff.paced_wake hstep rfl hover
  refine ⟨_, (hu.trans (.of_step (hQ.tick _) htick)).trans (.of_step hQ.wake hwake), rfl, ?_, ?_, ?_⟩
  · show v.base.driver.loc = s.base.driver.loc
    simp [hvbase, hubase]
  · show v.base.driver.machine = s.base.driver.machine
    simp [hvbase, hubase]
  · show v.base.driver.clock ≤ _
    rw [hvbase]
    show u.base.driver.clock + (u.wakeAt - u.base.driver.clock) ≤ _
    have hsame : u.base.driver.clock = s.base.driver.clock := by rw [hubase]
    rw [hsame] at hend ⊢
    exact Nat.add_le_add_left (Nat.sub_le_iff_le_add'.mpr hend) _

/-- A thread with a connection can do everything asked of it. -/
theorem leads_served (hstops : Stops B) (hfresh : ∀ c v, B.exiting (B.restore c v) = false) (c : C)
    (hQ : ∀ l, l.isService = true → Q (.worker l)) {s : Timed (Driven Daemon Display V W)}
    (h : (paced (retrying B)).Reachable s) (hloc : s.base.driver.loc = .select)
    (hlinked : s.base.system.phase.linked = true) :
    ∃ t w, (paced (retrying B)).Leads Q s t ∧ Quiescent B t.base w ∧
      t.base.driver = s.base.driver := by
  have hbase : (driven driver B).Reachable s.base := Backoff.reachable_base h
  have hflag := (unflagged_of_reachable hbase (by simp [Running, hloc])).1
  obtain ⟨y, w, hy, hphase, hexit, hqueue⟩ :=
    Reconnect.leads_to_loop_linked hstops hfresh c (Reconnect.reachable_system hbase) hflag hlinked
  obtain ⟨t, ht, htbase⟩ := leads_thread (Q := Q)
    (fun l hl => by cases l <;> first | rfl | contradiction) (by simp [Reconnect.Label.isService]) hQ hy
  refine ⟨t, w, ht, ?_, by rw [htbase]⟩
  rw [htbase]
  exact ⟨hphase, hexit, hqueue, .inl hloc⟩

/-- A thread with nothing left to do displays what the state calls for, once the other side
has sent what it owes. -/
theorem leads_displayed {owed : X → Prop} {Displays : W → Float → Prop}
    (hB : OneEventAway B owed Displays) (hstops : Stops B)
    (hQ : ∀ x, owed x → Q (.worker (.external x))) {s : Timed (Driven Daemon Display V W)}
    (h : (paced (retrying B)).Reachable s) {w : W} (hq : Quiescent B s.base w) :
    ∃ t w', (paced (retrying B)).Leads Q s t ∧ Quiescent B t.base w' ∧
      t.base.driver = s.base.driver ∧
      Displays w' (s.base.driver.machine.state.opacity s.base.driver.machine.cfg) := by
  have hbase : (driven driver B).Reachable s.base := Backoff.reachable_base h
  rw [← hq.opacity_last hbase]
  cases hB s.base.system w (Reconnect.reachable_system hbase) (hq.isSettled hbase).whole hq.phase
      hq.exiting hq.queue with
  | inl hnow => exact ⟨s, w, .refl s, hq, rfl, hnow⟩
  | inr hsoon =>
      obtain ⟨x, hx, hdisplays⟩ := hsoon
      have hstep : (retrying B).auto.step s.base (.worker (.external x)) = some
          { s.base with system := { s.base.system with phase := .loop (B.external x w) } } := by
        show (driven driver B).step s.base (.worker (.external x)) = _
        simp [driven, Driven.step, Reconnect.Label.isHandle, Reconnect.System.step, hq.phase]
      obtain ⟨t, ht, htbase⟩ := Backoff.paced_step hstep fun hact => by
        simpa using wake_of_act hact
      refine ⟨t, B.external x w, .of_step (hQ x hx) ht, ?_, by rw [htbase], hdisplays⟩
      rw [htbase]
      exact ⟨rfl, (hstops.external x w).trans hq.exiting, hq.queue, hq.settled⟩

end Daemon

/-- From wherever a run has left the loop and the thread, unless the loop waits for a
silent client, within three seconds in which connecting succeeds the panel displays
what the machine's state calls for. -/
def Recovers {V W X C : Type*} (B : Worker Display V W X C) (owed : X → Prop)
    (Displays : W → Float → Prop) : Prop :=
  ∀ (a : Answers) s, (paced (retrying B)).Reachable s → s.base.driver.Running →
    ¬ s.base.driver.Wedged →
      ∃ t w, (paced (retrying B)).Leads (CatchUp a owed) s t ∧ Quiescent B t.base w ∧
        Displays w (t.base.driver.machine.state.opacity t.base.driver.machine.cfg) ∧
        t.base.driver.clock ≤ s.base.driver.clock + Duration.fromSecs 3

namespace Daemon

variable {V W X C : Type*} {B : Worker Display V W X C} {a : Answers} {owed : X → Prop}

theorem own_catchUp : Own (CatchUp (C := C) a owed) a := ⟨rfl, trivial, trivial⟩

theorem sleeps_catchUp : Sleeps (CatchUp (C := C) a owed) := ⟨fun _ => trivial, rfl, rfl, rfl⟩

theorem catchUp_of_isService {l : Reconnect.Label Display X C} (h : l.isService = true) :
    CatchUp a owed (.worker l) := by
  cases l <;> first | rfl | contradiction

/-- A thread that tries and succeeds has a connection. -/
theorem leads_linked (a : Answers) (owed : X → Prop) {s : Timed (Driven Daemon Display V W)}
    (h : s.base.system.phase = .test ∨ s.base.system.phase = .connecting)
    (hflag : s.base.system.flag = false) :
    ∃ u, (paced (retrying B)).Leads (CatchUp a owed) s u ∧ u.base.system.phase.linked = true ∧
      u.base.driver = s.base.driver := by
  have hconnect : ∀ y : Reconnect.System Display V W, y.phase = .connecting →
      (Reconnect.automaton B).Leads (fun l => l = .test ∨ l = .connect) y
        { y with phase := .connected } := by
    intro y hphase
    have hstep : (Reconnect.automaton B).step y .connect = some { y with phase := .connected } := by
      simp [Reconnect.automaton, Reconnect.System.step, hphase]
    exact .of_step (.inr rfl) hstep
  have hleads : (Reconnect.automaton B).Leads (fun l => l = .test ∨ l = .connect) s.base.system
      { s.base.system with phase := .connected } := by
    cases h with
    | inr hphase => exact hconnect _ hphase
    | inl hphase =>
        have hstep : (Reconnect.automaton B).step s.base.system .test =
            some { s.base.system with phase := .connecting } := by
          simp [Reconnect.automaton, Reconnect.System.step, hphase, hflag]
        exact (Automaton.Leads.of_step (.inl rfl) hstep).trans (hconnect _ rfl)
  obtain ⟨u, hu, hubase⟩ := leads_thread (Q := CatchUp a owed) (by rintro l (rfl | rfl) <;> rfl)
    (by simp) (by rintro l (rfl | rfl) <;> rfl) hleads
  exact ⟨u, hu, by rw [hubase]; rfl, by rw [hubase]⟩

/-- Within the longest sleep the thread can have a connection, with the machine as it is. -/
theorem leads_connected (a : Answers) (owed : X → Prop) (hstops : Stops B)
    (hfresh : ∀ c v, B.exiting (B.restore c v) = false) {s : Timed (Driven Daemon Display V W)}
    (h : (paced (retrying B)).Reachable s) (hloc : s.base.driver.loc = .select) :
    ∃ u, (paced (retrying B)).Leads (CatchUp a owed) s u ∧ u.base.system.phase.linked = true ∧
      u.base.driver.loc = .select ∧ u.base.driver.machine = s.base.driver.machine ∧
      u.base.driver.clock ≤ s.base.driver.clock + Duration.fromSecs 3 := by
  have hbase : (driven driver B).Reachable s.base := Backoff.reachable_base h
  have hflag := (unflagged_of_reachable hbase (by simp [Running, hloc])).1
  have hstay : s.base.driver.clock ≤ s.base.driver.clock + Duration.fromSecs 3 := Nat.le_add_right _ _
  have htry : s.base.system.phase = .test ∨ s.base.system.phase = .connecting →
      ∃ u, (paced (retrying B)).Leads (CatchUp a owed) s u ∧ u.base.system.phase.linked = true ∧
        u.base.driver.loc = .select ∧ u.base.driver.machine = s.base.driver.machine ∧
        u.base.driver.clock ≤ s.base.driver.clock + Duration.fromSecs 3 := by
    intro hphase
    obtain ⟨u, hu, hlinked, hdriver⟩ := leads_linked a owed hphase hflag
    exact ⟨u, hu, hlinked, hdriver ▸ hloc, congrArg machine hdriver, hdriver ▸ hstay⟩
  obtain hlinked | htest | hconnecting | ⟨y, hy, hsleeping, hyflag⟩ :=
    Reconnect.leads_to_sleep hstops hfresh (Reconnect.reachable_system hbase) hflag
  · exact ⟨s, .refl s, hlinked, hloc, rfl, hstay⟩
  · exact htry (.inl htest)
  · exact htry (.inr hconnecting)
  · obtain ⟨u, hu, hsystem, hloc', hmachine, hclock⟩ := leads_test sleeps_catchUp h hy hsleeping
    obtain ⟨v, hv, hlinked, hdriver⟩ := leads_linked (B := B) a owed (s := u)
      (.inl (by rw [hsystem])) (by rw [hsystem]; exact hyflag)
    exact ⟨v, hu.trans hv, hlinked, hdriver ▸ hloc'.trans hloc,
      (congrArg machine hdriver).trans hmachine, hdriver ▸ hclock⟩

/-- At a `select!`, within the longest sleep the panel can display what the state calls
for. -/
theorem leads_caught_up {Displays : W → Float → Prop} (hB : OneEventAway B owed Displays)
    (hstops : Stops B) (hfresh : ∀ c v, B.exiting (B.restore c v) = false) (c : C)
    {s : Timed (Driven Daemon Display V W)} (h : (paced (retrying B)).Reachable s)
    (hloc : s.base.driver.loc = .select) :
    ∃ t w, (paced (retrying B)).Leads (CatchUp a owed) s t ∧ Quiescent B t.base w ∧
      t.base.driver.machine = s.base.driver.machine ∧
      Displays w (s.base.driver.machine.state.opacity s.base.driver.machine.cfg) ∧
      t.base.driver.clock ≤ s.base.driver.clock + Duration.fromSecs 3 := by
  obtain ⟨s₁, hs₁, hlinked, hloc₁, hmachine, hclock⟩ :=
    leads_connected a owed hstops hfresh h hloc
  have hreach₁ := h.leads hs₁
  obtain ⟨s₂, w₂, hs₂, hq₂, hdriver₂⟩ := leads_served hstops hfresh c
    (Q := CatchUp a owed) (fun _ => catchUp_of_isService) hreach₁ hloc₁ hlinked
  obtain ⟨t, w, ht, hq, hdriver, hdisplays⟩ := leads_displayed hB hstops
    (Q := CatchUp a owed) (fun _ => id) (hreach₁.leads hs₂) hq₂
  have hsame := hdriver.trans hdriver₂
  rw [hdriver₂, hmachine] at hdisplays
  exact ⟨t, w, (hs₁.trans hs₂).trans ht, hq, (congrArg machine hsame).trans hmachine, hdisplays,
    hsame ▸ hclock⟩

theorem recovers {Displays : W → Float → Prop} (hB : OneEventAway B owed Displays)
    (hstops : Stops B) (hfresh : ∀ c v, B.exiting (B.restore c v) = false) (c : C) :
    Recovers B owed Displays := by
  intro a s h hrun hwedged
  have hown : Own (CatchUp (C := C) a owed) a := own_catchUp
  obtain ⟨s₁, hs₁, hloc₁, hclock₁⟩ := leads_waiting hown h hrun hwedged
  obtain ⟨t, w, ht, hq, hmachine, hdisplays, hclock⟩ :=
    leads_caught_up hB hstops hfresh c (h.leads hs₁) hloc₁
  refine ⟨t, w, hs₁.trans ht, hq, ?_, hclock₁ ▸ hclock⟩
  rw [hmachine]
  exact hdisplays

end Daemon

/-- **The panel recovers**, in both backends, however long the compositor was away. -/
theorem panel_recovers :
    Recovers layerShellServed Overlay.Owed Overlay.Displays ∧
      Recovers x11 (fun _ => False) X11Window.Shows :=
  ⟨Daemon.recovers oneEventAway_layerShellServed stops_layerShellServed
      (fun _ => Overlay.exit_restore _) fun _ => 0,
    Daemon.recovers oneEventAway_x11 stops_x11 X11Window.destroyed_restore
      { root := (1920, 1080), output := none }⟩

/-- An explicit blank while the thread sleeps after its second failure, 400 ms long. -/
def failingBlanked {X C : Type} : List (DrivenLabel Label Display X C) :=
  failing ++ [.drive .finish, .drive (.raise .sigusr1), .drive (.choose .sigusr1), .drive (.start {}),
    .handle, .handle]

/-- The panel can be black with the next connection. -/
theorem panel_recovers_failing :
    (∃ s, (paced (retrying layerShellServed)).run unconnected failingBlanked = some s ∧
      s.base.driver.machine.state = .black ∧
      ∃ t o, (paced (retrying layerShellServed)).Leads (CatchUp {} Overlay.Owed) s t ∧
        Quiescent layerShellServed t.base o ∧
        o.Displays (t.base.driver.machine.state.opacity t.base.driver.machine.cfg) ∧
        t.base.driver.clock ≤ s.base.driver.clock + Duration.fromSecs 3) ∧
    ∃ s, (paced (retrying x11)).run unconnected failingBlanked = some s ∧
      s.base.driver.machine.state = .black ∧
      ∃ t w, (paced (retrying x11)).Leads (CatchUp {} fun _ => False) s t ∧ Quiescent x11 t.base w ∧
        w.Shows (t.base.driver.machine.state.opacity t.base.driver.machine.cfg) ∧
        t.base.driver.clock ≤ s.base.driver.clock + Duration.fromSecs 3 := by
  constructor
  · obtain ⟨s, hrun, hblack, hloc⟩ :
        ∃ s, (paced (retrying layerShellServed)).run unconnected failingBlanked = some s ∧
          s.base.driver.machine.state = .black ∧ s.base.driver.loc = .top := ⟨_, rfl, rfl, rfl⟩
    refine ⟨s, hrun, hblack,
      panel_recovers.1 {} s ⟨unconnected, failingBlanked, init_unconnected rfl, hrun⟩ ?_ ?_⟩
    · simp [Daemon.Running, hloc]
    · simp [Daemon.Wedged, hloc]
  · obtain ⟨s, hrun, hblack, hloc⟩ :
        ∃ s, (paced (retrying x11)).run unconnected failingBlanked = some s ∧
          s.base.driver.machine.state = .black ∧ s.base.driver.loc = .top := ⟨_, rfl, rfl, rfl⟩
    refine ⟨s, hrun, hblack,
      panel_recovers.2 {} s ⟨unconnected, failingBlanked, init_unconnected rfl, hrun⟩ ?_ ?_⟩
    · simp [Daemon.Running, hloc]
    · simp [Daemon.Wedged, hloc]

end GamescopeIdle
