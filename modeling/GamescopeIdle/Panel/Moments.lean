import GamescopeIdle.OverlayThread.Slot
import GamescopeIdle.Panel

/-!
# GamescopeIdle.Panel.Moments

The panel at any moment of a run: with a handler half way through its requests,
commands in the queue, the thread anywhere in a reconnect, and a compositor that
may close the surface whenever it likes.

* What is shown is always what one of the three states calls for, never another
  opacity (`panel_shows_some_state`).
* A session that has never blanked has never had a surface or a mapped window
  (`active_session_draws_nothing`).
* Where no dim warning is invisible, the X11 window has the external-overlay slot
  exactly while the machine is not active (`slot_follows_state`).
-/

namespace GamescopeIdle

open Reconnect (Driven DrivenLabel DrivenMoved DrivenWithin Keeps driven)

/-! ## the requests of a loop -/

namespace Daemon

/-- The requests that a loop with this configuration makes. -/
def Requests (cfg : Config) (r : Display) : Prop :=
  r = .hide ∨ (r = .showAlpha cfg.dimAlpha ∧ cfg.dimWarningSecs ≠ 0) ∨ r = .showAlpha 1.0

theorem requests_of_asked {m m' : Machine} {asks : List (Message Display)}
    (h : Asked m asks m') {r : Display} (hr : .request r ∈ asks) : Requests m.cfg r := by
  cases h with
  | nothing => contradiction
  | hidden | quit =>
      have hhide : r = .hide := by simpa using hr
      exact .inl hhide
  | dimmed _ hwarn =>
      have hdim : r = .showAlpha m.cfg.dimAlpha := by simpa using hr
      exact .inr (.inl ⟨hdim, hwarn⟩)
  | blackened =>
      have hblack : r = .showAlpha 1.0 := by simpa using hr
      exact .inr (.inr hblack)

theorem requests_of_asks {d : Daemon} {l : Label} (h : d.machine.HasOverlay) {r : Display}
    (hr : .request r ∈ driver.asks d l) : Requests d.machine.cfg r := by
  cases hstep : d.step l with
  | none => simp [driver, hstep] at hr
  | some d' => exact requests_of_asked (asked_step h hstep).1 hr

/-- What a run from the same configuration keeps of the worker. -/
theorem within_of_reachable {V W X C : Type*} {B : Worker Display V W X C}
    {ok : Config → Display → Prop} {J : Config → V → Prop} {I : Config → W → Prop}
    (hB : ∀ cfg, Keeps B (ok cfg) (J cfg) (I cfg)) (hok : ∀ cfg r, Requests cfg r → ok cfg r)
    {s : Driven Daemon Display V W} (h : (driven driver B).Reachable s) :
    DrivenWithin (ok s.driver.machine.cfg) (J s.driver.machine.cfg) (I s.driver.machine.cfg) s := by
  refine h.invariant (I := fun s => DrivenWithin (ok s.driver.machine.cfg)
    (J s.driver.machine.cfg) (I s.driver.machine.cfg) s) ?_ ?_
  · intro s hs
    exact Reconnect.drivenWithin_of_init (hB _) hs
  · intro s l t hreach ih hstep
    have hoverlay := hasOverlay_of_reachable (Reconnect.reachable_driver hreach)
    have hcfg : t.driver.machine.cfg = s.driver.machine.cfg := by
      cases Reconnect.driver_of_moved hstep with
      | inl hsame => rw [hsame]
      | inr hdrove =>
          obtain ⟨e, he⟩ := hdrove
          exact (asked_step hoverlay he).2.2
    rw [hcfg]
    refine Reconnect.drivenWithin_step (hB _) ih ?_ hstep
    cases l with
    | drive e => exact fun r hr => hok _ r (requests_of_asks hoverlay hr)
    | handle | worker => trivial

end Daemon

/-! ## no other opacity -/

/-- The opacity is what some state calls for. -/
def IsStateOpacity (cfg : Config) (opacity : Float) : Prop :=
  ∃ st : State, opacity = st.opacity cfg

theorem isStateOpacity_of_requests {cfg : Config} {r : Display} (h : Daemon.Requests cfg r) :
    IsStateOpacity cfg (Display.opacity (some r)) := by
  rcases h with rfl | ⟨rfl, -⟩ | rfl
  · exact ⟨.active, rfl⟩
  · exact ⟨.dim, rfl⟩
  · exact ⟨.black, opacity_one⟩

/-- An alpha of the layer-shell backend that some state calls for. -/
structure IsStateAlpha (cfg : Config) (alpha : Float) : Prop where
  clamped : F64.clamp alpha 0.0 1.0 = alpha
  opacity : IsStateOpacity cfg (F64.opacity alpha)

theorem isStateAlpha_write {cfg : Config} {r : Display} (h : Daemon.Requests cfg r) :
    IsStateAlpha cfg (layerShell.write r) := by
  have hwrite : F64.opacity (layerShell.write r) = Display.opacity (some r) :=
    opacity_layerShell (some r)
  exact ⟨clamp_write_layerShell r, hwrite ▸ isStateOpacity_of_requests h⟩

/-- Every frame of the connection is black, with the alpha byte of some state. -/
structure DrawnForStates (cfg : Config) (o : Overlay) : Prop where
  alpha : IsStateAlpha cfg o.alpha
  frames : ∀ n w h canvas, .frame n w h canvas ∈ o.wire →
    ∃ (st : State) (k : Nat), canvas = Overlay.blackPixels k (F64.alphaByte (st.opacity cfg))

/-- A new frame has the alpha byte of the overlay. -/
theorem DrawnForStates.of_current {cfg : Config} {o o' : Overlay} (h : DrawnForStates cfg o)
    (halpha : IsStateAlpha cfg o'.alpha)
    (hframe : ∀ n w h canvas, .frame n w h canvas ∈ o'.wire →
      .frame n w h canvas ∈ o.wire ∨ Overlay.Current o' n canvas) : DrawnForStates cfg o' := by
  refine ⟨halpha, fun n w ht canvas hmem => ?_⟩
  cases hframe n w ht canvas hmem with
  | inl hold => exact h.frames n w ht canvas hold
  | inr hnow =>
      obtain ⟨k, hk⟩ := hnow.black
      obtain ⟨st, hst⟩ := halpha.opacity
      exact ⟨st, k, by rw [hk, ← hst, F64.alphaByte_opacity halpha.clamped]⟩

theorem wire_restore (shm : Option Memory) (alpha : Float) (n : Nat) (w h : UInt32)
    (canvas : List UInt8) : .frame n w h canvas ∉ (Overlay.restore shm alpha).wire := by
  simp only [Overlay.restore]
  split <;> simp [Overlay.createLayer]

theorem keeps_layerShell (cfg : Config) :
    Keeps layerShell (Daemon.Requests cfg) (IsStateAlpha cfg) (DrawnForStates cfg) where
  initial := ⟨by decide, .active, F64.opacity_zero⟩
  write _ hr := isStateAlpha_write hr
  restore shm v hv := by
    refine ⟨?_, fun n w h canvas hmem => absurd hmem (wire_restore shm v n w h canvas)⟩
    exact (Overlay.alpha_restore shm v).symm ▸ hv
  request r o hr ho := by
    have halpha : (o.setAlpha (layerShell.write r)).alpha = layerShell.write r :=
      (Overlay.alpha_setAlpha _ o).trans (clamp_write_layerShell r)
    exact ho.of_current (halpha.symm ▸ isStateAlpha_write hr)
      fun n w h canvas => Overlay.frame_of_setAlpha
  stop _ ho := ⟨ho.alpha, ho.frames⟩
  external e o ho :=
    ho.of_current ((Overlay.alpha_onEvent e o).symm ▸ ho.alpha) fun n w h canvas =>
      Overlay.frame_of_onEvent

/-- What is shown is the last frame, if there is one. -/
theorem DrawnForStates.shown {cfg : Config} {o : Overlay} (h : DrawnForStates cfg o) :
    ∃ st : State, o.shown = some (F64.alphaByte (st.opacity cfg)) := by
  have hnone : (some 0 : Option UInt8) = some (F64.alphaByte (State.active.opacity cfg)) :=
    congrArg some (by decide : (0 : UInt8) = F64.alphaByte 0.0)
  unfold Overlay.shown
  cases hlast : o.layer.bind fun n => o.lastFrame n with
  | none => exact ⟨.active, hnone⟩
  | some frame =>
      obtain ⟨w, ht, canvas⟩ := frame
      obtain ⟨n, -, hn⟩ := Option.bind_eq_some_iff.mp hlast
      obtain ⟨st, k, hk⟩ := h.frames n w ht canvas (Overlay.mem_of_lastFrame hn)
      cases k with
      | zero =>
          have hempty : Overlay.canvasAlpha [] = some 0 := by decide
          refine ⟨.active, ?_⟩
          rw [← hnone, hk]
          exact hempty
      | succ k =>
          refine ⟨st, ?_⟩
          show Overlay.canvasAlpha canvas = _
          rw [hk, Overlay.canvasAlpha_blackPixels (Nat.succ_pos k)]

theorem keeps_x11 (cfg : Config) :
    Keeps x11 (Daemon.Requests cfg) (fun v => IsStateOpacity cfg (F64.opacity v))
      (fun w => IsStateOpacity cfg w.applied) where
  initial := ⟨.active, F64.opacity_zero⟩
  write r hr := by
    have hwrite : F64.opacity (x11.write r) = Display.opacity (some r) := opacity_x11 (some r)
    exact hwrite ▸ isStateOpacity_of_requests hr
  restore screen v hv := (X11Window.applied_restore screen v).symm ▸ hv
  request r w hr _ := by
    have happlied : (x11.exec (.request r) w).applied = Display.opacity (some r) := by
      cases r with
      | showAlpha alpha => exact X11Window.applied_showAlpha alpha w
      | hide => exact X11Window.applied_hide w
    exact happlied ▸ isStateOpacity_of_requests hr
  stop _ hw := hw
  external _ _ hw := hw

/-- **The panel never shows anything else**: at every moment of every run, in both
backends and whatever the compositor does, what is shown is what one of the three states
calls for, in the frame on the wire and in the window's pixel. -/
theorem panel_shows_some_state :
    (∀ (s : Driven Daemon Display Float Overlay) o,
      (driven Daemon.driver layerShell).Reachable s → s.system.phase = .loop o →
        ∃ st : State, o.shown = some (F64.alphaByte (st.opacity s.driver.machine.cfg))) ∧
    ∀ (s : Driven Daemon Display Float X11Window) w, (driven Daemon.driver x11).Reachable s →
      s.system.phase = .loop w →
        ∃ st : State, w.Shows (st.opacity s.driver.machine.cfg) := by
  constructor
  · intro s o h hphase
    exact ((Daemon.within_of_reachable keeps_layerShell (fun _ _ => id) h).system.loop o hphase).shown
  · intro s w h hphase
    obtain ⟨st, hst⟩ :=
      (Daemon.within_of_reachable keeps_x11 (fun _ _ => id) h).system.loop w hphase
    have hfilled : w.Filled := (Daemon.within_of_reachable (fun _ => keeps_filled_x11)
      (fun _ _ _ => trivial) h).system.loop w hphase
    exact ⟨st, hfilled.shows hst⟩

/-- A wake-up with its request half made. -/
def waking {X C : Type} : List (DrivenLabel Label Display X C) :=
  [.drive (.raise .sigusr2), .drive (.choose .sigusr2), .drive (.start {}), .handle]

/-- The machine is active, and the panel still black. -/
theorem panel_shows_some_state_waking :
    (∃ s o, (driven Daemon.driver layerShell).run { driver := .fresh, system := { value := 0.0 } }
        (blanking (some fun _ => 0) ++ [.worker (.external (.configure (2, 1)))] ++ waking) =
        some s ∧
      s.system.phase = .loop o ∧ s.driver.machine.state = .active ∧ o.shown = some 255 ∧
        ∃ st : State, o.shown = some (F64.alphaByte (st.opacity s.driver.machine.cfg))) ∧
    ∃ s w, (driven Daemon.driver x11).run { driver := .fresh, system := { value := 0.0 } }
        (blanking { root := (1920, 1080), output := none } ++ waking) = some s ∧
      s.system.phase = .loop w ∧ s.driver.machine.state = .active ∧ w.pixel = 0xFF000000 ∧
        ∃ st : State, w.Shows (st.opacity s.driver.machine.cfg) := by
  constructor
  · have hrun : (driven Daemon.driver layerShell).run
        { driver := .fresh, system := { value := 0.0 } }
        (blanking (some fun _ => 0) ++ [.worker (.external (.configure (2, 1)))] ++ waking) =
        some _ := rfl
    refine ⟨_, _, hrun, rfl, rfl, by decide, ?_⟩
    exact panel_shows_some_state.1 _ _ ⟨_, _, init_driven_fresh _, hrun⟩ rfl
  · have hrun : (driven Daemon.driver x11).run
        { driver := .fresh, system := { value := 0.0 } }
        (blanking { root := (1920, 1080), output := none } ++ waking) = some _ := rfl
    refine ⟨_, _, hrun, rfl, rfl, by decide, ?_⟩
    exact panel_shows_some_state.2 _ _ ⟨_, _, init_driven_fresh _, hrun⟩ rfl

/-! ## a session that never blanks -/

namespace Daemon

/-- No event handled so far has left the machine blanked. -/
def NeverBlanked (d : Daemon) : Prop := ∀ h ∈ d.handled, h.after = .active

/-- A step handles nothing, or an event that the history ends with. -/
theorem handled_step {d d' : Daemon} {l : Label} (h : d.step l = some d') :
    (d'.handled = d.handled ∧ (d'.machine.state = d.machine.state ∨ d'.machine.state = .active)) ∨
      ∃ r, d'.handled = d.handled ++ [r] ∧ r.after = d'.machine.state := by
  cases step_moved h with
  | outside _ hf => exact .inl ⟨by simp [handled, hf.log], .inl (by rw [hf.machine])⟩
  | reported => exact .inl ⟨by simp [handled, handledOf], .inl rfl⟩
  | chose => exact .inl ⟨by simp [handled], .inl (by rw [machine_take])⟩
  | ran => exact .inr ⟨_, handled_exec _ _ _ _ _, rfl⟩
  | finished => exact .inl ⟨rfl, .inl rfl⟩
  | left => exact .inl ⟨rfl, .inr (by simp [Machine.shutdown, Machine.request])⟩

theorem NeverBlanked.of_step {d d' : Daemon} {l : Label} (h : NeverBlanked d')
    (hstep : d.step l = some d') : NeverBlanked d := by
  intro r hr
  cases handled_step hstep with
  | inl hsame => exact h r (by rw [hsame.1]; exact hr)
  | inr hran =>
      obtain ⟨r', hr', -⟩ := hran
      exact h r (by rw [hr']; exact List.mem_append_left _ hr)

/-- A machine that has never been blanked is active. -/
theorem active_of_neverBlanked {d d' : Daemon} {l : Label} (hactive : d.machine.state = .active)
    (h : NeverBlanked d') (hstep : d.step l = some d') : d'.machine.state = .active := by
  cases handled_step hstep with
  | inl hsame =>
      cases hsame.2 with
      | inl hstate => exact hstate.trans hactive
      | inr hstate => exact hstate
  | inr hran =>
      obtain ⟨r, hr, hafter⟩ := hran
      rw [← hafter]
      exact h r (by simp [hr])

/-- From active to active, the loop asks for nothing but that the overlay hides. -/
theorem hide_of_asks {d d' : Daemon} {l : Label} (hoverlay : d.machine.HasOverlay)
    (hstep : d.step l = some d') (hactive' : d'.machine.state = .active) {r : Display}
    (hr : .request r ∈ driver.asks d l) : r = .hide := by
  obtain ⟨hasked, -⟩ := asked_step hoverlay hstep
  generalize driver.asks d l = asks at hasked hr
  cases hasked with
  | nothing => contradiction
  | hidden | quit => simpa using hr
  | dimmed hdim => simp [hdim] at hactive'
  | blackened hblack => simp [hblack] at hactive'

/-- What hiding keeps of a worker holds while the machine has never been blanked. -/
theorem within_of_neverBlanked {V W X C : Type*} {B : Worker Display V W X C} {J : V → Prop}
    {I : W → Prop} (hB : Keeps B (· = .hide) J I) {s : Driven Daemon Display V W}
    (h : (driven driver B).Reachable s) (hnever : NeverBlanked s.driver) :
    s.driver.machine.state = .active ∧ DrivenWithin (· = .hide) J I s := by
  refine h.invariant (I := fun s => NeverBlanked s.driver →
    s.driver.machine.state = .active ∧ DrivenWithin (· = .hide) J I s) ?_ ?_ hnever
  · intro s hs _
    refine ⟨?_, Reconnect.drivenWithin_of_init hB hs⟩
    obtain ⟨d, ⟨hd, -⟩, rfl⟩ := hs
    obtain ⟨cfg, overlay, pathExists, dev, lastActivity, dimDeadline, hm⟩ := hd.machine
    rw [hm]
    rfl
  · intro s l t hreach ih hstep hnever
    have hoverlay := hasOverlay_of_reachable (Reconnect.reachable_driver hreach)
    have hdriver : t.driver = s.driver ∨ ∃ e, s.driver.step e = some t.driver :=
      Reconnect.driver_of_moved hstep
    have hnever' : NeverBlanked s.driver := by
      cases hdriver with
      | inl hsame => exact hsame ▸ hnever
      | inr hdrove =>
          obtain ⟨e, he⟩ := hdrove
          exact hnever.of_step he
    obtain ⟨hactive, hwithin⟩ := ih hnever'
    have hactive' : t.driver.machine.state = .active := by
      cases hdriver with
      | inl hsame => rw [hsame, hactive]
      | inr hdrove =>
          obtain ⟨e, he⟩ := hdrove
          exact active_of_neverBlanked hactive hnever he
    refine ⟨hactive', Reconnect.drivenWithin_step hB hwithin ?_ hstep⟩
    cases l with
    | drive e =>
        intro r hr
        have hmoved : DrivenMoved driver B s (.drive e) t := Reconnect.driven_moved hstep
        cases hmoved with
        | drove _ hd => exact hide_of_asks hoverlay hd hactive' hr
    | handle | worker => trivial

end Daemon

/-- Nothing has been drawn on the connection, nor asked of the compositor. -/
def Overlay.Untouched (o : Overlay) : Prop := o.layer = none ∧ o.wire = []

/-- The window has never been mapped, stacked or painted. -/
def X11Window.Untouched (w : X11Window) : Prop :=
  w.mapped = false ∧ w.stack = none ∧ w.painted = 0.0

theorem untouched_draw {o : Overlay} (h : o.Untouched) : o.draw.Untouched := by
  have hdraw : o.draw = o := by
    unfold Overlay.draw
    split
    · rfl
    · rw [h.1]
  rw [hdraw]
  exact h

/-- An alpha that is not above zero needs no surface. -/
theorem untouched_setAlpha {o : Overlay} (h : o.Untouched) {alpha : Float} (hpos : ¬ 0.0 < alpha) :
    (o.setAlpha alpha).Untouched := by
  have hclamp : ¬ 0.0 < F64.clamp alpha 0.0 1.0 := (F64.zero_lt_clamp alpha).not.mpr hpos
  have hset : o.setAlpha alpha = { o with alpha := F64.clamp alpha 0.0 1.0 } := by
    simp only [Overlay.setAlpha, h.1, Option.isNone_none, if_true, if_neg hclamp]
  rw [hset]
  exact h

theorem untouched_onEvent {o : Overlay} (h : o.Untouched) (e : Overlay.Event) :
    (o.onEvent e).Untouched := by
  cases e with
  | closed => exact ⟨rfl, h.2⟩
  | configure newSize => exact untouched_draw h
  | output info =>
      show (o.rememberOutput info).Untouched
      unfold Overlay.rememberOutput
      split <;> exact h
  | shm ok => exact h

/-- A connection with nothing to restore is left alone. -/
theorem untouched_restore (shm : Option Memory) {alpha : Float} (hpos : ¬ 0.0 < alpha) :
    (Overlay.restore shm alpha).Untouched := by
  simp only [Overlay.restore, if_neg hpos]
  exact ⟨rfl, rfl⟩

theorem keeps_hide_layerShell :
    Keeps layerShell (· = .hide) (fun v => ¬ 0.0 < v) Overlay.Untouched where
  initial := F64.not_zero_lt_zero
  write r hr := by
    rw [hr]
    exact (F64.zero_lt_clamp 0.0).not.mpr F64.not_zero_lt_zero
  restore shm _ hv := untouched_restore shm hv
  request r o hr ho := by
    rw [hr]
    exact untouched_setAlpha ho ((F64.zero_lt_clamp 0.0).not.mpr F64.not_zero_lt_zero)
  stop o ho := ⟨rfl, ho.2⟩
  external e o ho := untouched_onEvent ho e

theorem X11Window.untouched_restore (screen : X11Screen) {alpha : Float} (hpos : ¬ 0.0 < alpha) :
    (X11Window.restore screen alpha).Untouched := by
  rw [X11Window.restore, if_neg hpos]
  exact ⟨rfl, rfl, rfl⟩

/-- Hiding a window that was never mapped does nothing. -/
theorem X11Window.untouched_hide {w : X11Window} (h : w.Untouched) : w.hide.Untouched := by
  have hhide : w.hide = w := by simp [X11Window.hide, h.1]
  rw [hhide]
  exact h

theorem keeps_hide_x11 : Keeps x11 (· = .hide) (fun v => ¬ 0.0 < v) X11Window.Untouched where
  initial := F64.not_zero_lt_zero
  write r hr := by
    rw [hr]
    exact F64.not_zero_lt_zero
  restore screen _ hv := X11Window.untouched_restore screen hv
  request r w hr hw := by
    rw [hr]
    exact X11Window.untouched_hide hw
  stop _ hw := hw
  external _ _ hw := hw

/-- **A session that never blanks draws nothing**: as long as no event has left the
machine blanked, no connection of either backend has ever had a surface or a
mapped window, whatever was asked of it and however often it was rebuilt. -/
theorem active_session_draws_nothing :
    (∀ (s : Driven Daemon Display Float Overlay) o,
      (driven Daemon.driver layerShell).Reachable s → s.driver.NeverBlanked →
        s.system.phase = .loop o → o.Untouched) ∧
    ∀ (s : Driven Daemon Display Float X11Window) w, (driven Daemon.driver x11).Reachable s →
      s.driver.NeverBlanked → s.system.phase = .loop w → w.Untouched := by
  constructor
  · intro s o h hnever hphase
    exact (Daemon.within_of_neverBlanked keeps_hide_layerShell h hnever).2.system.loop o hphase
  · intro s w h hnever hphase
    exact (Daemon.within_of_neverBlanked keeps_hide_x11 h hnever).2.system.loop w hphase

/-- A wake command to a machine that is active makes a request, and draws nothing. -/
theorem active_session_draws_nothing_wake :
    (∃ s o, (driven Daemon.driver layerShell).run
        { driver := .fresh, system := { value := 0.0 } }
        [.drive .finish, .drive (.client .connect), .drive (.choose .accept),
          .drive (.client (.send none [0x77, 0x61, 0x6B, 0x65, 0x0A])), .drive (.start {}),
          .handle, .handle, .worker .test, .worker .connect, .worker .install, .worker .read,
          .worker (.apply (some fun _ => 0)), .worker (.external (.configure (1920, 1080)))] = some s ∧
      s.system.phase = .loop o ∧ s.system.last = some .hide ∧ o.Untouched) ∧
    ∃ s w, (driven Daemon.driver x11).run
        { driver := .fresh, system := { value := 0.0 } }
        [.drive .finish, .drive (.client .connect), .drive (.choose .accept),
          .drive (.client (.send none [0x77, 0x61, 0x6B, 0x65, 0x0A])), .drive (.start {}),
          .worker .test, .worker .connect, .worker .install, .worker .read,
          .worker (.apply { root := (1920, 1080), output := none }), .handle, .handle,
          .worker .recv] = some s ∧
      s.system.phase = .loop w ∧ s.system.last = some .hide ∧ w.Untouched := by
  constructor
  · have hrun : (driven Daemon.driver layerShell).run
        { driver := .fresh, system := { value := 0.0 } }
        [.drive .finish, .drive (.client .connect), .drive (.choose .accept),
          .drive (.client (.send none [0x77, 0x61, 0x6B, 0x65, 0x0A])), .drive (.start {}),
          .handle, .handle, .worker .test, .worker .connect, .worker .install, .worker .read,
          .worker (.apply (some fun _ => 0)), .worker (.external (.configure (1920, 1080)))] =
        some _ := rfl
    refine ⟨_, _, hrun, rfl, rfl, ?_⟩
    refine active_session_draws_nothing.1 _ _ ⟨_, _, init_driven_fresh _, hrun⟩ ?_ rfl
    intro h hh
    obtain rfl := List.mem_singleton.mp hh
    rfl
  · have hrun : (driven Daemon.driver x11).run
        { driver := .fresh, system := { value := 0.0 } }
        [.drive .finish, .drive (.client .connect), .drive (.choose .accept),
          .drive (.client (.send none [0x77, 0x61, 0x6B, 0x65, 0x0A])), .drive (.start {}),
          .worker .test, .worker .connect, .worker .install, .worker .read,
          .worker (.apply { root := (1920, 1080), output := none }), .handle, .handle,
          .worker .recv] = some _ := rfl
    refine ⟨_, _, hrun, rfl, rfl, ?_⟩
    refine active_session_draws_nothing.2 _ _ ⟨_, _, init_driven_fresh _, hrun⟩ ?_ rfl
    intro h hh
    obtain rfl := List.mem_singleton.mp hh
    rfl

/-! ## the external-overlay slot -/

/-- The alpha that a state calls for. -/
def State.alpha (cfg : Config) : State → Float
  | active => 0.0
  | dim => cfg.dimAlpha
  | black => 1.0

/-- A dim warning can be seen, or there is none. -/
def Config.VisibleWarning (cfg : Config) : Prop := 0.0 < cfg.dimAlpha ∨ cfg.dimWarningSecs = 0

namespace Daemon

theorem visible_of_requests {cfg : Config} (hcfg : cfg.VisibleWarning) {r : Display}
    (h : Requests cfg r) : r.Visible := by
  rcases h with rfl | ⟨rfl, hwarn⟩ | rfl
  · trivial
  · exact hcfg.resolve_right hwarn
  · exact F64.zero_lt_one

/-- The shared alpha is the one that the machine's state calls for. -/
theorem write_of_fits {d : Daemon} {last : Option Display} (h : Fits d last) :
    (last.map x11Hiding.write).getD x11Hiding.initial = d.machine.state.alpha d.machine.cfg := by
  unfold Fits at h
  cases hs : d.machine.state with
  | active =>
      rw [hs] at h
      cases h with
      | inl hnone => rw [hnone]; rfl
      | inr hhide => rw [hhide]; rfl
  | dim =>
      rw [hs] at h
      rw [h]
      rfl
  | black =>
      rw [hs] at h
      rw [h]
      rfl

/-- A machine that is dimmed has a dim warning. -/
theorem warns_of_dim {d : Daemon} (h : overlayLoop.Reachable d) (hdim : d.machine.state = .dim) :
    d.machine.cfg.dimWarningSecs ≠ 0 := by
  refine h.invariant (I := fun d => d.machine.state = .dim → d.machine.cfg.dimWarningSecs ≠ 0)
    ?_ ?_ hdim
  · intro d hd hdim
    obtain ⟨cfg, overlay, pathExists, dev, lastActivity, dimDeadline, hm⟩ := hd.1.machine
    rw [hm] at hdim
    contradiction
  · intro d l d' hreach ih hstep hdim
    obtain ⟨hasked, -, hcfg⟩ := asked_step (hasOverlay_of_reachable hreach) hstep
    rw [hcfg]
    generalize driver.asks d l = asks at hasked
    cases hasked with
    | nothing hstate => exact ih (hstate ▸ hdim)
    | dimmed _ hwarn => exact hwarn
    | hidden hstate | quit hstate | blackened hstate => simp [hstate] at hdim

/-- With a visible warning, every state but active calls for something. -/
theorem alpha_pos_iff {d : Daemon} (h : overlayLoop.Reachable d)
    (hcfg : d.machine.cfg.VisibleWarning) :
    0.0 < d.machine.state.alpha d.machine.cfg ↔ d.machine.state ≠ .active := by
  cases hs : d.machine.state with
  | active => exact iff_of_false F64.not_zero_lt_zero (fun hno => hno rfl)
  | dim => exact iff_of_true (hcfg.resolve_right (warns_of_dim h hs)) (by decide)
  | black => exact iff_of_true F64.zero_lt_one (by decide)

/-- With a visible warning, the loop drives the X11 thread as it would drive one
that hides. -/
theorem reachable_hiding {s : Driven Daemon Display Float X11Window}
    (h : (driven driver x11).Reachable s) (hcfg : s.driver.machine.cfg.VisibleWarning) :
    (driven driver x11Hiding).Reachable s := by
  have honly : ∀ cfg, Keeps x11 (Requests cfg) (fun _ => True) fun _ => True := fun cfg =>
    ⟨trivial, fun _ _ => trivial, fun _ _ _ => trivial, fun _ _ _ _ => trivial, fun _ _ => trivial,
      fun _ _ _ => trivial⟩
  refine h.invariant (I := fun s => s.driver.machine.cfg.VisibleWarning →
    (driven driver x11Hiding).Reachable s) ?_ ?_ hcfg
  · intro s hs _
    exact .init hs
  · intro s l t hreach ih hstep hvisible
    have hcfg : t.driver.machine.cfg = s.driver.machine.cfg := by
      cases Reconnect.driver_of_moved hstep with
      | inl hsame => rw [hsame]
      | inr hdrove =>
          obtain ⟨e, he⟩ := hdrove
          exact (asked_step (hasOverlay_of_reachable (Reconnect.reachable_driver hreach)) he).2.2
    rw [hcfg] at hvisible
    have hwithin := within_of_reachable honly (fun _ _ => id) hreach
    have hvisibly : Reconnect.OnlyOk Display.Visible s.system :=
      ⟨fun r hr => visible_of_requests hvisible (hwithin.system.only.queued r hr),
        fun r hr => visible_of_requests hvisible (hwithin.system.only.wrote r hr)⟩
    refine (ih hvisible).step (e := l) ?_
    exact (Reconnect.driven_step_congr agreeOn_x11Hiding hvisibly l).symm.trans hstep

end Daemon

/-- **The slot follows the state**: when no dim warning is invisible, in every
state any interleaving of the daemon with the X11 thread leads to, once nothing
is on its way the window is what the state's alpha wants it to be; so it has the
external-overlay slot exactly while the machine is not active. -/
theorem slot_follows_state {s : Driven Daemon Display Float X11Window} {w : X11Window}
    (h : (driven Daemon.driver x11).Reachable s)
    (hcfg : s.driver.machine.cfg.VisibleWarning) (hq : Quiescent x11 s w) :
    X11Window.SlotRight (s.driver.machine.state.alpha s.driver.machine.cfg) w ∧
      ((w.mapped = true ∧ w.stack = some .above) ↔ s.driver.machine.state ≠ .active) := by
  have hreach := Daemon.reachable_hiding h hcfg
  have hslot : w.slot = X11Window.wanted (s.driver.machine.state.alpha s.driver.machine.cfg) := by
    rw [← Daemon.write_of_fits (Daemon.fits_of_reachable h)]
    exact Reconnect.view_fits_driver faithful_x11Hiding stops_x11Hiding hreach (hq.isSettled h)
      hq.phase hq.exiting hq.queue
  have hright := X11Window.slotRight_of_eq hslot
  exact ⟨hright, hright.held.trans (Daemon.alpha_pos_iff (Reconnect.reachable_driver h) hcfg)⟩

/-- The window of a blanked machine has the slot. -/
theorem slot_follows_state_blank :
    ∃ s w, (driven Daemon.driver x11).run { driver := .fresh, system := { value := 0.0 } }
        (blanking { root := (1920, 1080), output := none }) = some s ∧
      s.system.phase = .loop w ∧ w.mapped = true ∧ w.stack = some .above := by
  have hrun : (driven Daemon.driver x11).run { driver := .fresh, system := { value := 0.0 } }
      (blanking { root := (1920, 1080), output := none }) = some _ := rfl
  have hvisible : ({ cec := .off } : Config).VisibleWarning := .inl (by decide)
  have hslot := slot_follows_state ⟨_, _, init_driven_fresh _, hrun⟩ hvisible
    ⟨rfl, rfl, rfl, .inl rfl⟩
  exact ⟨_, _, hrun, rfl, hslot.2.mpr (by decide)⟩

end GamescopeIdle
