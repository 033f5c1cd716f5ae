import GamescopeIdle.Panel.Wake

/-!
# GamescopeIdle.Panel.Shutdown

From a `SIGTERM` to the end of the daemon and of its overlay thread.

A request to quit is lost on a thread that is just connecting, but it never has to be:
wherever a run has left the handler, the handle and the thread, with a `SIGTERM` on its
way steps of their own bring both to their ends (`shutdown_can_complete`).
-/

namespace GamescopeIdle

open Reconnect (Driven DrivenLabel Stops driven)

/-- A step of the daemon, of the handle, or one in which the thread gets on or leaves
its loop. -/
def EndStep {X C : Type*} : DrivenLabel Label Display X C → Prop
  | .drive l => l.isDaemon = true
  | .handle => True
  | .worker l => l.isProgress = true ∨ l = .leave

namespace Daemon

/-- Only its own branch takes up a `SIGTERM`. -/
theorem sigterm_step {d d' : Daemon} {l : Label} (h : d.sigterm = true) (hl : l.isDaemon = true)
    (hstep : d.step l = some d') : d'.sigterm = true := by
  cases step_moved hstep with
  | outside hout => simp [hl] at hout
  | @chose b hloc =>
      cases b with
      | accept => cases hbacklog : d.backlog <;> simpa [take, hbacklog] using h
      | _ => exact h
  | reported | ran | finished | left => exact h

variable {V W X C : Type*} {B : Worker Display V W X C}

theorem sigterm_of_leads {s t : Driven Daemon Display V W} (h : s.driver.sigterm = true)
    (hst : (driven driver B).Leads OwnStep s t) : t.driver.sigterm = true := by
  obtain ⟨ls, hls, hrun⟩ := hst
  induction ls generalizing s with
  | nil =>
      rw [Automaton.run_nil, Option.some.injEq] at hrun
      exact hrun ▸ h
  | cons l ls ih =>
      rw [Automaton.run_cons, Option.bind_eq_some_iff] at hrun
      obtain ⟨u, hu, hrest⟩ := hrun
      refine ih ?_ (fun l' hl' => hls l' (by simp [hl'])) hrest
      have hown := hls l (by simp)
      have hmoved : Reconnect.DrivenMoved driver B s l u := Reconnect.driven_moved hu
      cases hmoved with
      | drove _ hd => exact sigterm_step h hown hd
      | began | ended | worked => exact h

theorem ownStep_endStep {l : DrivenLabel Label Display X C} (h : OwnStep l) : EndStep l := by
  cases l with
  | drive | handle => exact h
  | worker => exact .inl h

/-- Leaving the loop asks the overlay to hide and to quit. -/
theorem asks_stop {d d' : Daemon} {signal : Signal} {a : Answers} (hoverlay : d.machine.HasOverlay)
    (hstep : d.step (.stop signal a) = some d') :
    driver.asks d (.stop signal a) = [.request .hide, .stop] ∧ d'.loc = .stopped ∧
      d'.machine.state = .active := by
  rw [asks_driver hstep]
  cases step_moved hstep with
  | outside hout => simp [Label.isDaemon] at hout
  | left =>
      have hlog : (d.machine.shutdown (d.env a)).overlay =
          d.machine.overlay.map (· ++ [.hide, .quit]) := by
        simp [Machine.shutdown, Machine.request, Function.comp_def]
      refine ⟨?_, rfl, by simp [Machine.shutdown, Machine.request]⟩
      exact Machine.asked_of_overlay hoverlay hlog

/-- At the `select!`, with the thread idle in its loop, a `SIGTERM` ends both. -/
theorem leads_ended (hstops : Stops B) {s : Driven Daemon Display V W} {w : W}
    (h : (driven driver B).Reachable s) (hloc : s.driver.loc = .select)
    (hsigterm : s.driver.sigterm = true) (hq : Quiescent B s w) :
    ∃ t, (driven driver B).Leads EndStep s t ∧ t.driver.loc = .stopped ∧
      t.driver.machine.state = .active ∧ t.Settled ∧ t.system.phase = .terminated := by
  have hsettled := hq.isSettled h
  obtain ⟨d, hd⟩ : ∃ d, s.driver.step (.stop .sigterm {}) = some d := by
    simp [step, stop, hloc, hsigterm]
  obtain ⟨hasks, hstopped, hactive⟩ :=
    asks_stop (hasOverlay_of_reachable (Reconnect.reachable_driver h)) hd
  have hstop : EndStep (X := X) (C := C) (.drive (.stop .sigterm {})) := rfl
  obtain ⟨s₁, hs₁, hdriver, htodo, hsystem⟩ :=
    Reconnect.leads_drive (P := driver) (B := B) hstop hsettled hd
  -- the handle does both requests, and the worker finds them in its queue
  have hidle : s₁.system.caller = .idle := by
    rw [hsystem]
    cases hcaller : s.system.caller with
    | idle => rfl
    | _ => simp [Reconnect.Driven.Settled, hcaller, Reconnect.Caller.isIdle] at hsettled
  have hphase : s₁.system.phase = .loop w := by rw [hsystem, hq.phase]
  have hwired : Reconnect.Wired s₁.system := by
    rw [hsystem]
    exact (Reconnect.reachable_system h).invariant (fun _ => Reconnect.wired_of_init)
      fun _ _ _ _ ih hstep => Reconnect.wired_step ih hstep
  have hsender : s₁.system.sender = true := by rw [hwired.sender, hphase]; rfl
  have hhandle : EndStep (X := X) (C := C) .handle := trivial
  obtain ⟨s₂, hs₂, hdriver₂, hsettled₂, hphase₂, hqueue₂, hflag₂⟩ :=
    Reconnect.leads_asked (P := driver) (B := B) hhandle hidle hsender (by rw [hphase]; rfl)
  rw [htodo.trans hasks] at hqueue₂ hflag₂
  obtain ⟨y, hy, hend, hcaller⟩ := Reconnect.leads_to_end hstops (hphase₂.trans hphase) hq.exiting
    (hflag₂ (.inr (by simp))) (by simp [hqueue₂])
  have hworker : (driven driver B).Leads EndStep s₂ { s₂ with system := y } := by
    refine Reconnect.leads_worker ?_ ?_ hy
    · intro l hl
      cases l <;> first | rfl | contradiction
    · intro l hl
      cases l <;> first | exact .inl rfl | exact .inr rfl | contradiction
  refine ⟨{ s₂ with system := y }, (hs₁.trans hs₂).trans hworker, ?_, ?_, ?_, hend⟩
  · show s₂.driver.loc = .stopped
    rw [hdriver₂, hdriver, hstopped]
  · show s₂.driver.machine.state = .active
    rw [hdriver₂, hdriver, hactive]
  · exact ⟨hsettled₂.1, by rw [hcaller]; exact hsettled₂.2⟩

end Daemon

/-- From wherever a run has left the loop and the thread, with a `SIGTERM` on its way and
no silent client in front of it, both can come to their ends. -/
def ShutsDown {V W X C : Type*} (B : Worker Display V W X C) : Prop :=
  ∀ s, (driven Daemon.driver B).Reachable s → s.driver.Running → ¬ s.driver.Wedged →
    s.driver.sigterm = true →
      ∃ t, (driven Daemon.driver B).Leads EndStep s t ∧ t.driver.loc = .stopped ∧
        t.driver.machine.state = .active ∧ t.Settled ∧ t.system.phase = .terminated

theorem Daemon.shutsDown {V W X C : Type*} {B : Worker Display V W X C} (hstops : Stops B)
    (hfresh : ∀ c v, B.exiting (B.restore c v) = false) (c : C) : ShutsDown B := by
  intro s h hrun hwedged hsigterm
  obtain ⟨s₁, hs₁, -, hloc, -, -⟩ := leads_select (own_ownStep {}) h hrun hwedged
  obtain ⟨s₂, w, hs₂, hq, hdriver⟩ :=
    leads_quiescent hstops hfresh c (Q := OwnStep) (fun _ => id) (h.leads hs₁) hloc
  have hleads := hs₁.trans hs₂
  obtain ⟨t, ht, hend⟩ := leads_ended hstops (h.leads hleads) (by rw [hdriver, hloc])
    (sigterm_of_leads hsigterm hleads) hq
  exact ⟨t, (hleads.mono fun _ => ownStep_endStep).trans ht, hend⟩

/-- **Shutdown can always complete**, in both backends. -/
theorem shutdown_can_complete : ShutsDown layerShell ∧ ShutsDown x11 :=
  ⟨Daemon.shutsDown stops_layerShell Overlay.exit_restore (some fun _ => 0),
    Daemon.shutsDown stops_x11 X11Window.destroyed_restore
      { root := (1920, 1080), output := none }⟩

/-- A blanked daemon whose thread has just lost its connection gets a `SIGTERM`. -/
def terminating {X C : Type} : List (DrivenLabel Label Display X C) :=
  [.worker .fail, .drive (.raise .sigterm)]

theorem shutdown_can_complete_lost :
    (∃ s, (driven Daemon.driver layerShell).run { driver := .fresh, system := { value := 0.0 } }
        (blanking (some fun _ => 0) ++ terminating) = some s ∧
      ∃ t, (driven Daemon.driver layerShell).Leads EndStep s t ∧ t.driver.loc = .stopped ∧
        t.driver.machine.state = .active ∧ t.Settled ∧ t.system.phase = .terminated) ∧
    ∃ s, (driven Daemon.driver x11).run { driver := .fresh, system := { value := 0.0 } }
        (blanking { root := (1920, 1080), output := none } ++ terminating) = some s ∧
      ∃ t, (driven Daemon.driver x11).Leads EndStep s t ∧ t.driver.loc = .stopped ∧
        t.driver.machine.state = .active ∧ t.Settled ∧ t.system.phase = .terminated := by
  constructor
  · obtain ⟨s, hrun, hloc, hsigterm⟩ : ∃ s, (driven Daemon.driver layerShell).run
        { driver := .fresh, system := { value := 0.0 } } (blanking (some fun _ => 0) ++ terminating) =
          some s ∧
        s.driver.loc = .select ∧ s.driver.sigterm = true := ⟨_, rfl, rfl, rfl⟩
    refine ⟨s, hrun, shutdown_can_complete.1 s ⟨_, _, init_driven_fresh _, hrun⟩ ?_ ?_ hsigterm⟩
    · simp [Daemon.Running, hloc]
    · simp [Daemon.Wedged, hloc]
  · obtain ⟨s, hrun, hloc, hsigterm⟩ : ∃ s, (driven Daemon.driver x11).run
        { driver := .fresh, system := { value := 0.0 } }
        (blanking { root := (1920, 1080), output := none } ++ terminating) = some s ∧
        s.driver.loc = .select ∧ s.driver.sigterm = true := ⟨_, rfl, rfl, rfl⟩
    refine ⟨s, hrun, shutdown_can_complete.2 s ⟨_, _, init_driven_fresh _, hrun⟩ ?_ ?_ hsigterm⟩
    · simp [Daemon.Running, hloc]
    · simp [Daemon.Wedged, hloc]

end GamescopeIdle
