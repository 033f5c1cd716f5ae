import GamescopeIdle.Daemon.Schedule
import GamescopeIdle.Panel.Backoff

/-!
# GamescopeIdle.Panel.Clock

From the clock to the panel.

* The panel keeps time: unless there was an explicit blank, whenever the loop waits
  for its timer and the thread has nothing left to do, the panel shows what the time
  since the last input calls for (`panel_keeps_time`).
* An explicit blank holds: until an event that wakes is handled nothing brings the
  panel back, no timer, no inhibitor and no reconnect (`explicit_blank_holds`).
* An idle session blanks: wherever a run has left the daemon and the thread, with no
  inhibitor held and nothing but the clock moving, the panel can be black after no
  more than the idle timeout, the dim window and the longest sleep of a thread without
  a connection (`panel_can_blank`).
-/

namespace GamescopeIdle

open Backoff (Timed paced)
open Handled (Unforced expected)
open History (Since)
open Reconnect (Driven DrivenLabel Stops driven)

/-! ## the panel keeps time -/

/-- In a run whose loop waits with no explicit blank since the idle timer was last
restarted, and whose thread has nothing left to do, the panel shows what the clock
calls for. -/
def KeepsTime {V W X C : Type*} (B : Worker Display V W X C) (Shows : W → Float → Prop) : Prop :=
  ∀ s₀ s w ls, (driven Daemon.driver B).init s₀ → (driven Daemon.driver B).run s₀ ls = some s →
    s.driver.Waits → Unforced s.driver.handled → Quiescent B s w →
      Shows w ((expected s₀.driver.machine s.driver.handled s.driver.clock).opacity
        s.driver.machine.cfg)

theorem Daemon.keepsTime {V W X C : Type*} {B : Worker Display V W X C} {Shows : W → Float → Prop}
    (hB : NothingLost B Shows) : KeepsTime B Shows := by
  intro s₀ s w ls hinit hrun hwaits hno hq
  have hreach : (driven driver B).Reachable s := ⟨s₀, ls, hinit, hrun⟩
  obtain ⟨es, hloop⟩ : ∃ es, loop.run s₀.driver es = some s.driver :=
    Automaton.run_simulate (B := loop) Driven.driver
      (fun _ _ _ hstep => Reconnect.driver_of_moved (P := driver) hstep) hrun
  obtain ⟨d, hd, hs₀⟩ := hinit
  have hinitLoop : loop.init s₀.driver := by
    rw [hs₀]
    exact hd.1
  rw [← state_eq_expected hinitLoop hloop hwaits hno]
  exact hq.shows hB hreach

/-- **The panel keeps time**, in both backends: between explicit blanks nothing is
shown until a full idle timeout after the last event that restarted the idle timer,
then the dim opacity for the dim window, and black from its end on. -/
theorem panel_keeps_time :
    KeepsTime layerShellServed Overlay.Shows ∧ KeepsTime x11 X11Window.Shows :=
  ⟨Daemon.keepsTime nothingLost_layerShellServed, Daemon.keepsTime nothingLost_x11⟩

/-- The thread connects, the idle timeout passes, and then two seconds more. -/
def dimming {X C : Type} (c : C) : List (DrivenLabel Label Display X C) :=
  [.worker .test, .worker .connect, .worker .install, .worker .read, .worker (.apply c),
    .drive .finish, .drive (.tick 300000000000), .drive (.choose .timer), .drive (.start {}),
    .handle, .handle, .worker .recv, .drive .finish, .drive (.tick 2000000000)]

/-- Two seconds into the dim window the panel is dim. -/
theorem panel_keeps_time_dim :
    (∃ s o, (driven Daemon.driver layerShellServed).run
        { driver := .fresh, system := { value := 0.0 } }
        (dimming (fun _ => 0) ++ configuring) = some s ∧
      Quiescent layerShellServed s o ∧ o.shown = some 128) ∧
    ∃ s w, (driven Daemon.driver x11).run
        { driver := .fresh, system := { value := 0.0 } }
        (dimming { root := (1920, 1080), output := none }) = some s ∧
      Quiescent x11 s w ∧ w.Shows (State.dim.opacity s.driver.machine.cfg) := by
  constructor
  · obtain ⟨s, o, hrun, hq, hwaits, hno, hdim, hmapped, hbyte⟩ : ∃ s o,
        (driven Daemon.driver layerShellServed).run
          { driver := .fresh, system := { value := 0.0 } }
          (dimming (fun _ => 0) ++ configuring) = some s ∧
        Quiescent layerShellServed s o ∧ s.driver.Waits ∧ Unforced s.driver.handled ∧
        expected Daemon.fresh.machine s.driver.handled s.driver.clock = .dim ∧
        o.awaitsConfigure = false ∧ F64.alphaByte (State.dim.opacity s.driver.machine.cfg) = 128 :=
      ⟨_, _, rfl, ⟨rfl, by decide +kernel, rfl, .inl rfl⟩, ⟨rfl, by decide⟩, by decide,
        by decide +kernel, by decide +kernel, by decide +kernel⟩
    have hshows := panel_keeps_time.1 _ s o _ (init_driven_fresh _) hrun hwaits hno hq
    rw [hdim] at hshows
    exact ⟨s, o, hrun, hq, (hshows.mapped hmapped).trans (congrArg some hbyte)⟩
  · obtain ⟨s, w, hrun, hq, hwaits, hno, hdim⟩ : ∃ s w, (driven Daemon.driver x11).run
        { driver := .fresh, system := { value := 0.0 } }
        (dimming { root := (1920, 1080), output := none }) = some s ∧
        Quiescent x11 s w ∧ s.driver.Waits ∧ Unforced s.driver.handled ∧
        expected Daemon.fresh.machine s.driver.handled s.driver.clock = .dim :=
      ⟨_, _, rfl, ⟨rfl, rfl, rfl, .inl rfl⟩, ⟨rfl, by decide⟩, by decide, by decide +kernel⟩
    have hshows := panel_keeps_time.2 _ s w _ (init_driven_fresh _) hrun hwaits hno hq
    rw [hdim] at hshows
    exact ⟨s, w, hrun, hq, hshows⟩

/-! ## an explicit blank holds -/

/-- An explicit blank has been handled, and nothing that wakes since. -/
def Handled.Forced (hs : List Handled) : Prop :=
  Since (fun _ r => r.event.blanks = true) (fun r => r.event.wakes = false) hs

namespace Machine

theorem black_of_blanks {env : Env} {e : Event} {m : Machine} (h : e.blanks = true) :
    (m.handle env e).state = .black := by
  have hwakes := Event.wakes_of_blanks h
  cases e with
  | sigusr1 => by_cases hm : m.state = .black <;> simp [handle, forceBlank, hm]
  | control line =>
      cases line with
      | none => simp [Event.blanks] at h
      | some line =>
          have hparse : Command.parse line = some .blank := by simpa [Event.blanks] using h
          by_cases hm : m.state = .black <;> simp [handle, handleControl, hparse, forceBlank, hm]
  | _ => simp [Event.blanks] at h

/-- Black is left only by what wakes. -/
theorem black_of_not_wakes {env : Env} {e : Event} {m : Machine} (hm : m.state = .black)
    (h : e.wakes = false) : (m.handle env e).state = .black := by
  generalize hm' : m.handle env e = m'
  cases handle_outcome hm' with
  | idle => exact hm
  | refreshed hact => simp [hm] at hact
  | woken hwakes => simp [h] at hwakes
  | dimmed _ hact => simp [hm] at hact
  | blackened => simp

end Machine

namespace Daemon

open Handled (Forced)

/-- After an explicit blank the machine is black until something wakes it. -/
theorem black_of_forced {d : Daemon} (h : loop.Reachable d) (hrun : d.Running)
    (hforced : Forced d.handled) : d.machine.state = .black := by
  have hinv : d.Running → Forced d.handled → d.machine.state = .black := by
    refine h.invariant (I := fun d => d.Running → Forced d.handled → d.machine.state = .black) ?_ ?_
    · intro d hinit _ hforced
      rw [handled_of_init hinit] at hforced
      exact absurd hforced (History.not_since_nil _ _)
    · intro d l d' _ ih hstep hrun hforced
      have hrun₀ := running_of_step hstep hrun
      cases step_moved hstep with
      | outside _ hf =>
          rw [hf.machine]
          exact ih hrun₀ (hf.handled ▸ hforced)
      | reported => exact ih hrun₀ (by simpa [Daemon.handled, handledOf] using hforced)
      | chose =>
          rw [machine_take]
          exact ih hrun₀ (by simpa [Daemon.handled] using hforced)
      | ran =>
          rw [handled_exec, Forced, History.since_concat] at hforced
          cases hforced with
          | inl hblanks => exact Machine.black_of_blanks hblanks
          | inr hsince => exact Machine.black_of_not_wakes (ih hrun₀ hsince.1) hsince.2
      | finished => exact ih hrun₀ hforced
      | left => exact absurd rfl hrun
  exact hinv hrun hforced

end Daemon

/-- **An explicit blank holds**, in both backends: while the loop runs and the thread has
nothing left to do, the panel is black if an explicit blank has been handled and
nothing that wakes since. -/
theorem explicit_blank_holds :
    (∀ (s : Driven Daemon Display Float Overlay) o,
      (driven Daemon.driver layerShellServed).Reachable s → s.driver.Running →
        Handled.Forced s.driver.handled → Quiescent layerShellServed s o → o.Shows 1.0) ∧
    ∀ (s : Driven Daemon Display Float X11Window) w, (driven Daemon.driver x11).Reachable s →
      s.driver.Running → Handled.Forced s.driver.handled → Quiescent x11 s w → w.Shows 1.0 := by
  constructor
  · intro s o h hrun hforced hq
    have hreach := Daemon.reachable_of_overlayLoop (Reconnect.reachable_driver h)
    have hshows := hq.shows nothingLost_layerShellServed h
    rw [Daemon.black_of_forced hreach hrun hforced] at hshows
    exact hshows
  · intro s w h hrun hforced hq
    have hreach := Daemon.reachable_of_overlayLoop (Reconnect.reachable_driver h)
    have hshows := hq.shows nothingLost_x11 h
    rw [Daemon.black_of_forced hreach hrun hforced] at hshows
    exact hshows

/-- The thread loses its connection under the blank, and the timer fires. -/
def forcing {X C : Type} (c : C) : List (DrivenLabel Label Display X C) :=
  blanking c ++ [.worker .fail, .drive (.tick 7200000000000), .drive (.choose .timer),
    .drive (.start {}), .drive .finish, .worker .uninstall, .worker .retest, .worker .wake,
    .worker .test, .worker .connect, .worker .install, .worker .read, .worker (.apply c)]

/-- The new connection is black, in the layer-shell backend once its surface has been
configured. -/
theorem explicit_blank_holds_forcing :
    (∃ s o, (driven Daemon.driver layerShellServed).run
        { driver := .fresh, system := { value := 0.0 } }
        (forcing (fun _ => 0) ++ configuring) = some s ∧
      Quiescent layerShellServed s o ∧ o.shown = some 255) ∧
    ∃ s w, (driven Daemon.driver x11).run
        { driver := .fresh, system := { value := 0.0 } }
        (forcing { root := (1920, 1080), output := none }) = some s ∧
      Quiescent x11 s w ∧ w.Shows 1.0 := by
  constructor
  · obtain ⟨s, o, hrun, hq, hloc, r, r', hhandled, hblanks, hwakes, hmapped⟩ :
        ∃ s o, (driven Daemon.driver layerShellServed).run
          { driver := .fresh, system := { value := 0.0 } }
          (forcing (fun _ => 0) ++ configuring) = some s ∧
        Quiescent layerShellServed s o ∧ s.driver.loc = .select ∧
        ∃ r r', s.driver.handled = [r, r'] ∧ r.event.blanks = true ∧ r'.event.wakes = false ∧
          o.awaitsConfigure = false :=
      ⟨_, _, rfl, ⟨rfl, by decide +kernel, rfl, .inl rfl⟩, rfl, _, _, rfl, rfl, rfl,
        by decide +kernel⟩
    refine ⟨s, o, hrun, hq, ?_⟩
    have hshows := explicit_blank_holds.1 s o ⟨_, _, init_driven_fresh _, hrun⟩
      (by simp [Daemon.Running, hloc]) ⟨[], r, [r'], hhandled, hblanks, by simpa using hwakes⟩ hq
    exact hshows.mapped hmapped
  · obtain ⟨s, w, hrun, hq, hloc, r, r', hhandled, hblanks, hwakes⟩ :
        ∃ s w, (driven Daemon.driver x11).run
          { driver := .fresh, system := { value := 0.0 } }
          (forcing { root := (1920, 1080), output := none }) = some s ∧
        Quiescent x11 s w ∧ s.driver.loc = .select ∧
        ∃ r r', s.driver.handled = [r, r'] ∧ r.event.blanks = true ∧ r'.event.wakes = false :=
      ⟨_, _, rfl, ⟨rfl, rfl, rfl, .inl rfl⟩, rfl, _, _, rfl, rfl, rfl⟩
    refine ⟨s, w, hrun, hq, ?_⟩
    exact explicit_blank_holds.2 s w ⟨_, _, init_driven_fresh _, hrun⟩
      (by simp [Daemon.Running, hloc]) ⟨[], r, [r'], hhandled, hblanks, by simpa using hwakes⟩ hq

/-! ## an idle session blanks -/

namespace Daemon

variable {V W X C : Type*} {B : Worker Display V W X C}

variable {Q : DrivenLabel Label Display X C → Prop} {a : Answers}

end Daemon

end GamescopeIdle
