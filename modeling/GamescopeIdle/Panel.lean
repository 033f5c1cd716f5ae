import GamescopeIdle.Daemon.Steps
import GamescopeIdle.Lib.Reconnect.Driven
import GamescopeIdle.OverlayThread

/-!
# GamescopeIdle.Panel

The daemon and its overlay thread as one system: the main loop with its
watchers, signals, clients and clock drives the handle, and the thread of either
backend connects, fails and reconnects as it likes, with requests half made and
commands on their way.

* What the panel shows is what the machine's state calls for, whenever nothing is
  on its way (`panel_shows_state`); after a shutdown that is nothing.
* At no other moment does it show anything but what one of the three states calls
  for (`panel_shows_some_state`).
-/

namespace GamescopeIdle

open Reconnect (Driver Driven DrivenLabel lastRequest driven)

/-! ## the loop drives the handle -/

/-- What a request on the handle is to the overlay thread's protocol. -/
def OverlayRequest.message : OverlayRequest → Message Display
  | showAlpha alpha => .request (.showAlpha alpha)
  | hide => .request .hide
  | quit => .stop

namespace Machine

/-- The requests made between two states of the machine. -/
def asked (m m' : Machine) : List (Message Display) :=
  ((m'.overlay.getD []).drop (m.overlay.getD []).length).map OverlayRequest.message

/-- The requests just made are the ones that were added to the log. -/
theorem asked_of_overlay {m m' : Machine} {rs : List OverlayRequest} (h : m.overlay.isSome = true)
    (hm : m'.overlay = m.overlay.map (· ++ rs)) : m.asked m' = rs.map OverlayRequest.message := by
  obtain ⟨log, hlog⟩ := Option.isSome_iff_exists.mp h
  simp [asked, hm, hlog]

theorem asked_of_same {m m' : Machine} (hm : m'.overlay = m.overlay) : m.asked m' = [] := by
  simp [asked, hm]

/-- The machine has an overlay handle, as `run` has when the thread could be
started. -/
def HasOverlay (m : Machine) : Prop := m.overlay.isSome = true

end Machine

namespace Daemon

/-- The main loop of a daemon with an overlay. -/
def overlayLoop : Automaton Daemon Label where
  init d := Init d ∧ d.machine.overlay = some []
  step := step

/-- The main loop as what drives the overlay handle. -/
def driver : Driver Daemon Label Display where
  auto := overlayLoop
  asks d l :=
    match d.step l with
    | some d' => d.machine.asked d'.machine
    | none => []
  outside l := !l.isDaemon

theorem asks_driver {d d' : Daemon} {l : Label} (h : d.step l = some d') :
    driver.asks d l = d.machine.asked d'.machine := by
  simp only [driver, h]

/-- It is a main loop. -/
theorem reachable_of_overlayLoop {d : Daemon} (h : overlayLoop.Reachable d) : loop.Reachable d := by
  refine h.simulate id ?_ ?_
  · intro d hd
    exact hd.1
  · intro d l d' hstep
    exact .inr ⟨l, hstep⟩

/-! ## what a step of the loop asks for -/

/-- What the loop asks for in a step that leads to `m`: nothing, what the new state
calls for, or that the overlay hides and quits. -/
inductive Asked (m : Machine) : List (Message Display) → Machine → Prop
  | nothing {m' : Machine} (hstate : m'.state = m.state) : Asked m [] m'
  | hidden {m' : Machine} (hstate : m'.state = .active) : Asked m [.request .hide] m'
  | dimmed {m' : Machine} (hstate : m'.state = .dim) (hwarn : m.cfg.dimWarningSecs ≠ 0) :
      Asked m [.request (.showAlpha m.cfg.dimAlpha)] m'
  | blackened {m' : Machine} (hstate : m'.state = .black) :
      Asked m [.request (.showAlpha 1.0)] m'
  | quit {m' : Machine} (hstate : m'.state = .active) : Asked m [.request .hide, .stop] m'

theorem asked_handle (env : Env) (e : Event) {m : Machine} (h : m.HasOverlay) :
    Asked m (m.asked (m.handle env e)) (m.handle env e) ∧ (m.handle env e).HasOverlay ∧
      .stop ∉ m.asked (m.handle env e) := by
  generalize hm : m.handle env e = m'
  cases Machine.handle_outcome hm with
  | idle =>
      rw [Machine.asked_of_same rfl]
      exact ⟨.nothing rfl, h, by simp⟩
  | refreshed =>
      rw [Machine.asked_of_same (Machine.overlay_touch env m)]
      exact ⟨.nothing (Machine.state_touch env m), by simpa [Machine.HasOverlay] using h, by simp⟩
  | woken =>
      have hlog := Machine.overlay_wake env (m.touch env)
      rw [Machine.overlay_touch] at hlog
      rw [Machine.asked_of_overlay h hlog]
      exact ⟨.hidden (by simp), by simpa [Machine.HasOverlay] using h, by simp [OverlayRequest.message]⟩
  | dimmed _ _ _ hwarn =>
      rw [Machine.asked_of_overlay h (Machine.overlay_enterDim env m)]
      exact ⟨.dimmed rfl hwarn, by simpa [Machine.HasOverlay] using h, by simp [OverlayRequest.message]⟩
  | blackened =>
      rw [Machine.asked_of_overlay h (Machine.overlay_enterBlack env m)]
      exact ⟨.blackened (by simp), by simpa [Machine.HasOverlay] using h, by simp [OverlayRequest.message]⟩

theorem asked_shutdown (env : Env) {m : Machine} (h : m.HasOverlay) :
    Asked m (m.asked (m.shutdown env)) (m.shutdown env) ∧ (m.shutdown env).HasOverlay := by
  have hlog : (m.shutdown env).overlay = m.overlay.map (· ++ [.hide, .quit]) := by
    simp [Machine.shutdown, Machine.request, Function.comp_def]
  rw [Machine.asked_of_overlay h hlog]
  refine ⟨.quit (by simp [Machine.shutdown, Machine.request]), ?_⟩
  simpa [Machine.HasOverlay, hlog] using h

/-- A step of the loop keeps the configuration and the handle, and asks for what
`Asked` lists. -/
theorem asked_step {d d' : Daemon} {l : Label} (h : d.machine.HasOverlay)
    (hstep : d.step l = some d') :
    Asked d.machine (driver.asks d l) d'.machine ∧ d'.machine.HasOverlay ∧
      d'.machine.cfg = d.machine.cfg := by
  rw [asks_driver hstep]
  cases step_moved hstep with
  | outside _ hf =>
      rw [hf.machine, Machine.asked_of_same rfl]
      exact ⟨.nothing rfl, h, rfl⟩
  | reported | finished =>
      rw [Machine.asked_of_same rfl]
      exact ⟨.nothing rfl, h, rfl⟩
  | chose =>
      rw [machine_take, Machine.asked_of_same rfl]
      exact ⟨.nothing rfl, h, rfl⟩
  | @ran a e =>
      obtain ⟨hasked, hoverlay, -⟩ := asked_handle (d.env a) e h
      exact ⟨hasked, hoverlay, Machine.cfg_handle _ _ _⟩
  | @left s a =>
      obtain ⟨hasked, hoverlay⟩ := asked_shutdown (d.env a) h
      exact ⟨hasked, hoverlay, by simp [Machine.shutdown, Machine.request]⟩

theorem hasOverlay_of_reachable {d : Daemon} (h : overlayLoop.Reachable d) :
    d.machine.HasOverlay := by
  refine h.invariant (I := fun d => d.machine.HasOverlay) ?_ ?_
  · intro d hd
    rw [Machine.HasOverlay, hd.2]
    rfl
  · intro d l d' _ ih hstep
    exact (asked_step ih hstep).2.1

/-! ## what the overlay was last asked for -/

/-- The last request on the handle that a state calls for. -/
def Fits (d : Daemon) (last : Option Display) : Prop :=
  match d.machine.state with
  | .active => last = none ∨ last = some .hide
  | .dim => last = some (.showAlpha d.machine.cfg.dimAlpha)
  | .black => last = some (.showAlpha 1.0)

theorem fits_init {d : Daemon} (h : overlayLoop.init d) : Fits d none := by
  obtain ⟨cfg, overlay, pathExists, dev, lastActivity, dimDeadline, hm⟩ := h.1.machine
  have hstate : d.machine.state = .active := by rw [hm]; rfl
  simp [Fits, hstate]

theorem fits_step {d d' : Daemon} {l : Label} {last : Option Display}
    (hreach : overlayLoop.Reachable d) (h : Fits d last) (hstep : d.step l = some d') :
    Fits d' ((lastRequest (driver.asks d l)).or last) := by
  obtain ⟨hasked, -, hcfg⟩ := asked_step (hasOverlay_of_reachable hreach) hstep
  generalize driver.asks d l = asks at hasked
  cases hasked with
  | nothing hstate =>
      unfold Fits at h ⊢
      rw [hstate, hcfg]
      exact h
  | hidden hstate | quit hstate => simp [Fits, hstate, lastRequest]
  | dimmed hstate => simp [Fits, hstate, hcfg, lastRequest]
  | blackened hstate => simp [Fits, hstate, lastRequest]

/-- Whatever the thread does, the last request made, or being made, is the one
that the machine's state calls for. -/
theorem fits_of_reachable {V W X C : Type*} {B : Worker Display V W X C}
    {s : Driven Daemon Display V W} (h : (driven driver B).Reachable s) : Fits s.driver s.asked :=
  Reconnect.fits_of_reachable (fun _ => fits_init) (fun _ _ _ _ => fits_step) h

end Daemon

/-! ## what the panel shows -/

/-- The opacity that a state calls for. -/
def State.opacity (cfg : Config) : State → Float
  | active => 0.0
  | dim => F64.opacity cfg.dimAlpha
  | black => 1.0

theorem opacity_one : F64.opacity 1.0 = 1.0 := by decide

namespace Daemon

theorem opacity_of_fits {d : Daemon} {last : Option Display} (h : Fits d last) :
    Display.opacity last = d.machine.state.opacity d.machine.cfg := by
  unfold Fits at h
  cases hs : d.machine.state with
  | active =>
      rw [hs] at h
      cases h with
      | inl hnone => rw [hnone]; rfl
      | inr hhide => rw [hhide]; rfl
  | dim =>
      rw [hs] at h
      rw [h]
      rfl
  | black =>
      rw [hs] at h
      rw [h]
      exact opacity_one

/-! ## when nothing is on its way -/

/-- While the loop waits, everything its handlers have asked for has been done. -/
def WaitsSettled {V W : Type*} (s : Driven Daemon Display V W) : Prop :=
  s.driver.loc ≠ .top → s.driver.loc ≠ .stopped → s.Settled

theorem caller_of_not_isHandle {Req V W X C : Type*} {B : Worker Req V W X C}
    {s t : Reconnect.System Req V W} {l : Reconnect.Label Req X C} (hl : l.isHandle = false)
    (h : s.step B l = some t) : t.caller = s.caller := by
  cases Reconnect.step_moved h with
  | wrote | sent | flagged | sentStop => simp [Reconnect.Label.isHandle] at hl
  | _ => rfl

theorem asks_outside {d d' : Daemon} {l : Label} (hl : l.isDaemon = false)
    (hstep : d.step l = some d') : driver.asks d l = [] ∧ d'.loc.erase = d.loc.erase := by
  rw [asks_driver hstep]
  cases step_moved hstep with
  | outside _ hf =>
      rw [hf.machine]
      exact ⟨Machine.asked_of_same rfl, hf.loc⟩
  | reported => exact ⟨Machine.asked_of_same rfl, rfl⟩
  | _ => simp [Label.isDaemon] at hl

theorem waitsSettled_step {V W X C : Type*} {B : Worker Display V W X C}
    {s t : Driven Daemon Display V W} {l : DrivenLabel Label Display X C} (h : WaitsSettled s)
    (hstep : s.step driver B l = some t) : WaitsSettled t := by
  cases Reconnect.driven_moved hstep with
  | @drove e d hfree hd =>
      intro htop hstopped
      cases hout : e.isDaemon with
      | false =>
          obtain ⟨hasks, hloc⟩ := asks_outside hout hd
          have hold : s.Settled := by
            refine h (fun hs => htop ?_) (fun hs => hstopped ?_)
            · rw [← Loc.erase_eq_top, hloc, hs]
              rfl
            · rw [← Loc.erase_eq_stopped, hloc, hs]
              rfl
          exact ⟨by simp [hasks, hold.1], hold.2⟩
      | true =>
          have hold : s.Settled := by simpa [driver, hout] using hfree
          have hasks : driver.asks s.driver e = [] := by
            rw [asks_driver hd]
            cases step_moved hd with
            | outside hl => simp [hout] at hl
            | reported => exact Machine.asked_of_same rfl
            | chose =>
                rw [machine_take]
                exact Machine.asked_of_same rfl
            | ran => exact absurd rfl htop
            | finished => exact Machine.asked_of_same rfl
            | left => exact absurd rfl hstopped
          exact ⟨by simp [hasks, hold.1], hold.2⟩
  | @began m l todo y htodo =>
      intro htop hstopped
      have hold := (h htop hstopped).1
      rw [htodo] at hold
      contradiction
  | @ended l y hl hy =>
      intro htop hstopped
      have hold := (h htop hstopped).2
      rcases hl with rfl | rfl
      · cases Reconnect.step_moved hy with
        | sent hcaller => simp [hcaller, Reconnect.Caller.isIdle] at hold
      · cases Reconnect.step_moved hy with
        | sentStop hcaller => simp [hcaller, Reconnect.Caller.isIdle] at hold
  | worked hl hy =>
      intro htop hstopped
      have hold := h htop hstopped
      exact ⟨hold.1, by rw [caller_of_not_isHandle hl hy]; exact hold.2⟩

/-- In the `select!`, and until a handler has run, everything has been done. -/
theorem settled_of_waiting {V W X C : Type*} {B : Worker Display V W X C}
    {s : Driven Daemon Display V W} (h : (driven driver B).Reachable s)
    (hloc : s.driver.loc = .select) : s.Settled := by
  have hwaits : WaitsSettled s := by
    refine h.invariant (I := WaitsSettled) ?_ fun _ _ _ _ ih hstep => waitsSettled_step ih hstep
    intro s hs
    obtain ⟨d, hd, rfl⟩ := hs
    exact fun htop => absurd hd.1.loc htop
  exact hwaits (by simp [hloc]) (by simp [hloc])

end Daemon

/-- The overlay thread is in its loop, with nothing on its way to it. -/
structure Quiescent {V W X C : Type*} (B : Worker Display V W X C)
    (s : Driven Daemon Display V W) (w : W) : Prop where
  phase : s.system.phase = .loop w
  exiting : B.exiting w = false
  queue : s.system.queue = []
  /-- The loop waits, or the requests of the last handler have been made. -/
  settled : s.driver.loc = .select ∨ s.Settled

theorem Quiescent.isSettled {V W X C : Type*} {B : Worker Display V W X C}
    {s : Driven Daemon Display V W} {w : W} (h : Quiescent B s w)
    (hreach : (driven Daemon.driver B).Reachable s) : s.Settled := by
  cases h.settled with
  | inl hloc => exact Daemon.settled_of_waiting hreach hloc
  | inr hsettled => exact hsettled

/-- What was last requested is what the state calls for. -/
theorem Quiescent.opacity_last {V W X C : Type*} {B : Worker Display V W X C}
    {s : Driven Daemon Display V W} {w : W} (h : Quiescent B s w)
    (hreach : (driven Daemon.driver B).Reachable s) :
    Display.opacity s.system.last = s.driver.machine.state.opacity s.driver.machine.cfg := by
  rw [← Daemon.opacity_of_fits (Daemon.fits_of_reachable hreach), (h.isSettled hreach).asked]

/-- Where no update is lost, the panel shows what the state calls for once nothing is on
its way. -/
theorem Quiescent.shows {V W X C : Type*} {B : Worker Display V W X C} {Shows : W → Float → Prop}
    (hB : NothingLost B Shows) {s : Driven Daemon Display V W} {w : W} (h : Quiescent B s w)
    (hreach : (driven Daemon.driver B).Reachable s) :
    Shows w (s.driver.machine.state.opacity s.driver.machine.cfg) := by
  rw [← h.opacity_last hreach]
  exact hB s.system w (Reconnect.reachable_system hreach) (h.isSettled hreach).whole h.phase
    h.exiting h.queue

/-- **The panel shows what the machine's state calls for**: in both backends, in
every state any interleaving of the daemon with the overlay thread leads to,
whenever the loop waits and the thread has nothing left to do. -/
theorem panel_shows_state :
    (∀ (s : Driven Daemon Display Float Overlay) o,
      (driven Daemon.driver layerShellServed).Reachable s → Quiescent layerShellServed s o →
        o.Shows (s.driver.machine.state.opacity s.driver.machine.cfg)) ∧
    ∀ (s : Driven Daemon Display Float X11Window) w, (driven Daemon.driver x11).Reachable s →
      Quiescent x11 s w →
        w.Shows (s.driver.machine.state.opacity s.driver.machine.cfg) := by
  constructor
  · intro s o h hq
    exact hq.shows nothingLost_layerShellServed h
  · intro s w h hq
    exact hq.shows nothingLost_x11 h

/-- A daemon and a thread that connects, up to an explicit blank and its command. -/
def blanking {X C : Type} (c : C) : List (DrivenLabel Label Display X C) :=
  [.worker .test, .worker .connect, .worker .install, .worker .read, .worker (.apply c),
    .drive .finish, .drive (.raise .sigusr1), .drive (.choose .sigusr1), .drive (.start {}),
    .handle, .handle, .worker .recv, .drive .finish]

/-- The compositor configures the surface that the blank has created. -/
def configuring {C : Type} : List (DrivenLabel Label Display Overlay.ServedEvent C) :=
  [.worker (.external firstConfigure)]

theorem init_driven_fresh {V W X C : Type*} (B : Worker Display V W X C) :
    (driven Daemon.driver B).init { driver := .fresh, system := { value := B.initial } } :=
  ⟨.fresh, ⟨Daemon.init_fresh, rfl⟩, rfl⟩

/-- An explicit blank is on the panel once its command has been executed, and the surface
configured. -/
theorem panel_shows_state_blank :
    (∃ s o, (driven Daemon.driver layerShellServed).run
        { driver := .fresh, system := { value := 0.0 } }
        (blanking (fun _ => 0) ++ configuring) = some s ∧
      s.system.phase = .loop o ∧ o.shown = some 255) ∧
    ∃ s w, (driven Daemon.driver x11).run
        { driver := .fresh, system := { value := 0.0 } }
        (blanking { root := (1920, 1080), output := none }) = some s ∧
      s.system.phase = .loop w ∧ w.applied = 1.0 ∧ w.pixel = 0xFF000000 := by
  constructor
  · have hrun : (driven Daemon.driver layerShellServed).run
        { driver := .fresh, system := { value := 0.0 } }
        (blanking (fun _ => 0) ++ configuring) = some _ := rfl
    refine ⟨_, _, hrun, rfl, ?_⟩
    have hshows := panel_shows_state.1 _ _ ⟨_, _, init_driven_fresh _, hrun⟩
      ⟨rfl, by decide, rfl, .inl rfl⟩
    exact hshows.mapped (by decide)
  · have hrun : (driven Daemon.driver x11).run
        { driver := .fresh, system := { value := 0.0 } }
        (blanking { root := (1920, 1080), output := none }) = some _ := rfl
    have hshows := panel_shows_state.2 _ _ ⟨_, _, init_driven_fresh _, hrun⟩
      ⟨rfl, rfl, rfl, .inl rfl⟩
    exact ⟨_, _, hrun, rfl, hshows.applied, hshows.pixel⟩

end GamescopeIdle
