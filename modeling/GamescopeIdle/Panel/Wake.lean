import GamescopeIdle.Daemon.Activity
import GamescopeIdle.Daemon.Clients
import GamescopeIdle.Panel

/-!
# GamescopeIdle.Panel.Wake

From a watcher's report to the panel, across the activity channel, the `select!`,
the machine, the handle and the overlay thread.

* Input clears the panel: a report that has been answered leaves nothing on the
  panel until something blanks it again (`input_clears_panel`).
* It always can: wherever a run has left the handler, the handle and the thread,
  with input on its way the daemon and the thread can clear the panel by steps of
  their own, unless the loop waits for a silent client (`panel_can_clear`).
-/

namespace GamescopeIdle

open Reconnect (Driven DrivenLabel Stops driven)

/-! ## input clears the panel -/

namespace Daemon

open Handled (TimerLaw stateAfter)
open History (Each)

/-- No event in these has taken the machine out of active. -/
def NothingBlanks (post : List Happening) : Prop :=
  ∀ r ∈ handledOf post, r.before = .active → r.after = .active

/-- Events that keep an active machine active do so one after the other. -/
theorem stateAfter_of_kept {s : Machine} {past rest : List Handled}
    (h : Each (TimerLaw s) (past ++ rest)) (hstart : stateAfter past = .active)
    (hkeep : ∀ r ∈ rest, r.before = .active → r.after = .active) :
    stateAfter (past ++ rest) = .active := by
  induction rest using List.reverseRecOn with
  | nil => simpa using hstart
  | append_singleton rest r ih =>
      rw [← List.append_assoc, History.each_concat] at h
      obtain ⟨hold, hlaw⟩ := h
      have hbefore : r.before = .active :=
        hlaw.before.trans (ih hold fun r' hr' => hkeep r' (by simp [hr']))
      have hafter := hkeep r (by simp) hbefore
      simp [stateAfter, ← List.append_assoc, hafter]

/-- After a report that has been answered, a machine that nothing has blanked is
active. -/
theorem active_of_report {d : Daemon} (h : loop.Reachable d) (hloc : d.loc = .select)
    (hempty : d.queued = false) {pre post : List Happening} {t : Instant}
    (hlog : d.log = pre ++ .reported t :: post) (hpost : NothingBlanks post) :
    d.machine.state = .active := by
  obtain ⟨-, hheard⟩ := noneLost_of_reachable h pre t post hlog
  have hanswered : ∃ r ∈ handledOf post, AnsweredIn t d.machine r := by
    cases hheard with
    | inr hdone => exact hdone
    | inl hnot =>
        cases hnot with
        | inl hq => simp [hempty] at hq
        | inr hrecv => simp [hloc] at hrecv
  obtain ⟨r, hr, -, -, -, hafter⟩ := hanswered
  obtain ⟨s, htimely⟩ := timely_of_reachable h
  obtain ⟨before, after, hsplit⟩ := List.append_of_mem hr
  have hhandled : d.handled = (handledOf pre ++ before ++ [r]) ++ after := by
    simp [Daemon.handled, hlog, handledOf, ← hsplit]
  have hlaw := htimely.law
  rw [hhandled] at hlaw
  have hstart : stateAfter (handledOf pre ++ before ++ [r]) = .active := by
    simpa [stateAfter] using hafter
  rw [htimely.state (by simp [Running, hloc]), hhandled]
  exact stateAfter_of_kept hlaw hstart fun r' hr' => hpost r' (by simp [hsplit, hr'])

end Daemon

/-- **Input clears the panel**: in both backends, when the loop is back at its
`select!` with an empty channel and the thread has nothing left to do, nothing is
shown unless an event handled after the last report has blanked the machine. -/
theorem input_clears_panel {pre post : List Happening} {t : Instant}
    (hpost : Daemon.NothingBlanks post) :
    (∀ (s : Driven Daemon Display Float Overlay) o,
      (driven Daemon.driver layerShellServed).Reachable s →
        s.driver.log = pre ++ .reported t :: post → s.driver.loc = .select →
          s.driver.queued = false → Quiescent layerShellServed s o → o.shown = some 0) ∧
    ∀ (s : Driven Daemon Display Float X11Window) w, (driven Daemon.driver x11).Reachable s →
      s.driver.log = pre ++ .reported t :: post → s.driver.loc = .select →
        s.driver.queued = false → Quiescent x11 s w → w.Shows 0.0 := by
  constructor
  · intro s o h hlog hloc hempty hq
    have hreach := Daemon.reachable_of_overlayLoop (Reconnect.reachable_driver h)
    have hactive := Daemon.active_of_report hreach hloc hempty hlog hpost
    have hshows := hq.shows nothingLost_layerShellServed h
    rw [hactive] at hshows
    exact Overlay.Shows.clear hshows
  · intro s w h hlog hloc hempty hq
    have hreach := Daemon.reachable_of_overlayLoop (Reconnect.reachable_driver h)
    have hactive := Daemon.active_of_report hreach hloc hempty hlog hpost
    have hshows := hq.shows nothingLost_x11 h
    rw [hactive] at hshows
    exact hshows

/-- The steps in which a report is answered and its request executed. -/
def answering {X C : Type} : List (DrivenLabel Label Display X C) :=
  [.drive (.trySend (.evdev "/dev/input/event3") false), .drive (.choose .recv), .drive (.start {}),
    .handle, .handle, .worker .recv, .drive .finish]

/-- A report under a black panel. -/
theorem input_clears_panel_blank :
    (∃ s₀ o₀ s o, (driven Daemon.driver layerShellServed).run
        { driver := .fresh, system := { value := 0.0 } }
        (blanking (fun _ => 0) ++ configuring) = some s₀ ∧
      s₀.system.phase = .loop o₀ ∧ o₀.shown = some 255 ∧
      (driven Daemon.driver layerShellServed).run { driver := .fresh, system := { value := 0.0 } }
        (blanking (fun _ => 0) ++ configuring ++ answering) = some s ∧
      s.system.phase = .loop o ∧ o.shown = some 0) ∧
    ∃ s₀ w₀ s w, (driven Daemon.driver x11).run { driver := .fresh, system := { value := 0.0 } }
        (blanking { root := (1920, 1080), output := none }) = some s₀ ∧
      s₀.system.phase = .loop w₀ ∧ w₀.pixel = 0xFF000000 ∧
      (driven Daemon.driver x11).run { driver := .fresh, system := { value := 0.0 } }
        (blanking { root := (1920, 1080), output := none } ++ answering) = some s ∧
      s.system.phase = .loop w ∧ w.Shows 0.0 := by
  have hpost : Daemon.NothingBlanks [.handled
      { event := .activity, chosen := 0, time := 0, queued := true, before := .black
        after := .active }] := by
    intro r hr
    obtain rfl := List.mem_singleton.mp hr
    exact fun _ => rfl
  constructor
  · have hrun : (driven Daemon.driver layerShellServed).run
        { driver := .fresh, system := { value := 0.0 } }
        (blanking (fun _ => 0) ++ configuring ++ answering) = some _ := rfl
    refine ⟨_, _, _, _, rfl, rfl, by decide, hrun, rfl, ?_⟩
    exact (@input_clears_panel [.handled _] _ 0 hpost).1 _ _
      ⟨_, _, init_driven_fresh _, hrun⟩ rfl rfl rfl ⟨rfl, by decide, rfl, .inl rfl⟩
  · have hrun : (driven Daemon.driver x11).run
        { driver := .fresh, system := { value := 0.0 } }
        (blanking { root := (1920, 1080), output := none } ++ answering) = some _ := rfl
    refine ⟨_, _, _, _, rfl, rfl, by decide, hrun, rfl, ?_⟩
    exact (@input_clears_panel [.handled _] _ 0 hpost).2 _ _
      ⟨_, _, init_driven_fresh _, hrun⟩ rfl rfl rfl ⟨rfl, rfl, rfl, .inl rfl⟩

/-! ## it always can -/

/-- A step of the daemon, of the handle, or one in which the thread gets on. -/
def OwnStep {X C : Type*} : DrivenLabel Label Display X C → Prop
  | .drive l => l.isDaemon = true
  | .handle => True
  | .worker l => l.isProgress = true

namespace Daemon

/-- Until the loop is left, nobody has asked the thread to quit. -/
def Unflagged {V W : Type*} (s : Driven Daemon Display V W) : Prop :=
  s.driver.Running → s.system.flag = false ∧ .stop ∉ s.todo

/-- Only the shutdown asks the thread to quit. -/
theorem stop_of_asks {d d' : Daemon} {l : Label} (hoverlay : d.machine.HasOverlay)
    (hstep : d.step l = some d') (hrun : d'.Running) : .stop ∉ driver.asks d l := by
  rw [asks_driver hstep]
  cases step_moved hstep with
  | outside _ hf =>
      rw [hf.machine, Machine.asked_of_same rfl]
      simp
  | reported | finished =>
      rw [Machine.asked_of_same rfl]
      simp
  | chose =>
      rw [machine_take, Machine.asked_of_same rfl]
      simp
  | @ran a e => exact (asked_handle (d.env a) e hoverlay).2.2
  | left => exact absurd rfl hrun

theorem unflagged_of_reachable {V W X C : Type*} {B : Worker Display V W X C}
    {s : Driven Daemon Display V W} (h : (driven driver B).Reachable s) : Unflagged s := by
  refine h.invariant (I := Unflagged) ?_ ?_
  · intro s hs _
    obtain ⟨d, -, rfl⟩ := hs
    exact ⟨rfl, by simp⟩
  · intro s l t hreach ih hstep hrun
    have hmoved : Reconnect.DrivenMoved driver B s l t := Reconnect.driven_moved hstep
    cases hmoved with
    | drove _ hd =>
        have hoverlay := hasOverlay_of_reachable (Reconnect.reachable_driver hreach)
        obtain ⟨hflag, htodo⟩ := ih (running_of_step hd hrun)
        refine ⟨hflag, ?_⟩
        rw [List.mem_append, not_or]
        exact ⟨htodo, stop_of_asks hoverlay hd hrun⟩
    | @began m l' todo y htodo hl hy =>
        obtain ⟨hflag, hold⟩ := ih hrun
        rw [htodo] at hold
        refine ⟨?_, fun hmem => hold (List.mem_cons_of_mem m hmem)⟩
        rcases hl with ⟨r, -, rfl⟩ | ⟨rfl, -⟩
        · cases Reconnect.step_moved hy with
          | wrote => exact hflag
        · simp at hold
    | ended hl hy | worked hl hy =>
        obtain ⟨hflag, hold⟩ := ih hrun
        refine ⟨?_, hold⟩
        cases Reconnect.step_moved hy with
        | flagged => simp [Reconnect.Label.isHandle] at hl
        | sent | sentStop =>
            rw [Reconnect.flag_post]
            exact hflag
        | _ => exact hflag

variable {V W X C : Type*} {B : Worker Display V W X C}

/-- The labels `Q` let the daemon, told `a` by the system, and its handle go on. -/
structure Own (Q : DrivenLabel Label Display X C → Prop) (a : Answers) : Prop where
  start : Q (.drive (.start a))
  finish : Q (.drive .finish)
  handle : Q .handle

/-- The loop back at its `select!`. -/
def again (d : Daemon) : Daemon :=
  { d with deadline := nextDeadline d.machine d.clock, loc := .select }

/-- A step that leaves the machine as it is asks for nothing. -/
theorem leads_quiet {Q : DrivenLabel Label Display X C → Prop} {l : Label} (hl : Q (.drive l))
    {s : Driven Daemon Display V W} (hsettled : s.Settled) {d : Daemon}
    (hstep : s.driver.step l = some d) (hsame : d.machine = s.driver.machine) :
    ∃ s', (driven driver B).Leads Q s s' ∧ s'.Settled ∧ s'.driver = d := by
  obtain ⟨s', hs', hdriver, htodo, hsystem⟩ :=
    Reconnect.leads_drive (P := driver) (B := B) hl hsettled hstep
  have hasks : driver.asks s.driver l = [] := by
    rw [asks_driver hstep]
    exact Machine.asked_of_same (congrArg _ hsame)
  refine ⟨s', hs', ⟨htodo.trans hasks, ?_⟩, hdriver⟩
  rw [hsystem]
  exact hsettled.2

/-- The handler of the chosen branch runs, its requests are made, and the loop goes
round. -/
theorem leads_handler {Q : DrivenLabel Label Display X C → Prop} {a : Answers} (hQ : Own Q a)
    {s : Driven Daemon Display V W} (hsettled : s.Settled) {e : Event} {t : Instant} {q : Bool}
    (hc : s.driver.current a = some (e, t, q)) :
    ∃ s', (driven driver B).Leads Q s s' ∧ s'.Settled ∧
      s'.driver = (s.driver.exec a e t q).again := by
  have hstart : s.driver.step (.start a) = some (s.driver.exec a e t q) := by
    simp [step, start, hc]
  obtain ⟨s₁, hs₁, hdriver, -, -⟩ :=
    Reconnect.leads_drive (P := driver) (B := B) hQ.start hsettled hstart
  obtain ⟨s₂, hs₂, hsettled₂, hdriver₂⟩ :=
    Reconnect.leads_settled (P := driver) (B := B) hQ.handle s₁
  have htop : s₂.driver.loc = .top := by
    rw [hdriver₂, hdriver]
    rfl
  obtain ⟨s₃, hs₃, hsettled₃, hdriver₃⟩ :=
    leads_quiet (B := B) hQ.finish hsettled₂ (step_finish htop) rfl
  refine ⟨s₃, (hs₁.trans hs₂).trans hs₃, hsettled₃, ?_⟩
  rw [hdriver₃, hdriver₂, hdriver]
  rfl

/-- Wherever a handler has been left, the loop can get to a `select!` without time
passing; what was on its way still is, or has been handled. -/
theorem leads_select {Q : DrivenLabel Label Display X C → Prop} {a : Answers} (hQ : Own Q a)
    {s : Driven Daemon Display V W} (h : (driven driver B).Reachable s) (hrun : s.driver.Running)
    (hwedged : ¬ s.driver.Wedged) :
    ∃ s', (driven driver B).Leads Q s s' ∧ s'.Settled ∧ s'.driver.loc = .select ∧
      s'.driver.clock = s.driver.clock ∧
      (s.driver.Notified → s'.driver.queued = true ∨ s'.driver.machine.state = .active) := by
  have hplaced := wellPlaced_of_reachable (reachable_of_overlayLoop (Reconnect.reachable_driver h))
  obtain ⟨s₁, hs₁, hsettled, hdriver⟩ :=
    Reconnect.leads_settled (P := driver) (B := B) hQ.handle s
  rw [← hdriver] at hrun hwedged hplaced ⊢
  -- a handler that is not the notification's leaves the notification queued
  have hother : ∀ {e t q}, s₁.driver.current a = some (e, t, q) →
      (s₁.driver.Notified → s₁.driver.queued = true ∨ e = .activity) →
      ∃ s', (driven driver B).Leads Q s s' ∧ s'.Settled ∧ s'.driver.loc = .select ∧
        s'.driver.clock = s₁.driver.clock ∧
        (s₁.driver.Notified → s'.driver.queued = true ∨ s'.driver.machine.state = .active) := by
    intro e t q hc hqueued
    obtain ⟨s₂, hs₂, hsettled₂, hdriver₂⟩ := leads_handler (B := B) hQ hsettled hc
    refine ⟨s₂, hs₁.trans hs₂, hsettled₂, ?_⟩
    rw [hdriver₂]
    refine ⟨rfl, rfl, fun hnotified => (hqueued hnotified).imp id ?_⟩
    rintro rfl
    exact Machine.state_onActivity _ _
  cases hloc : s₁.driver.loc with
  | stopped => exact absurd hloc hrun
  | select =>
      refine ⟨s₁, hs₁, hsettled, hloc, rfl, fun hnotified => .inl ?_⟩
      simpa [Notified, hloc] using hnotified
  | top =>
      obtain ⟨s₂, hs₂, hsettled₂, hdriver₂⟩ :=
        leads_quiet (B := B) hQ.finish hsettled (step_finish hloc) rfl
      refine ⟨s₂, hs₁.trans hs₂, hsettled₂, ?_⟩
      rw [hdriver₂]
      exact ⟨rfl, rfl, fun hnotified => .inl (by simpa [Notified, hloc] using hnotified)⟩
  | reading c t q =>
      cases hline : c.readLine with
      | none => exact absurd ⟨c, t, q, hloc, hline⟩ hwedged
      | some line =>
          have hc : s₁.driver.current a = some (.control line, t, q) := by
            simp [current, hloc, hline]
          exact hother hc fun hnotified => .inl (by simpa [Notified, hloc] using hnotified)
  | handling b t q =>
      obtain ⟨hb, hb'⟩ := hplaced b t q hloc
      cases b with
      | accept => contradiction
      | acceptFailed => contradiction
      | recv =>
          have hc : s₁.driver.current a = some (.activity, t, q) := by simp [current, hloc]
          exact hother hc fun _ => .inr rfl
      | timer =>
          have hc : s₁.driver.current a = some (.timeout a.inhibit a.screensaver, t, q) := by
            simp [current, hloc]
          exact hother hc fun hnotified => .inl (by simpa [Notified, hloc] using hnotified)
      | sigusr1 =>
          have hc : s₁.driver.current a = some (.sigusr1, t, q) := by simp [current, hloc]
          exact hother hc fun hnotified => .inl (by simpa [Notified, hloc] using hnotified)
      | sigusr2 =>
          have hc : s₁.driver.current a = some (.sigusr2, t, q) := by simp [current, hloc]
          exact hother hc fun hnotified => .inl (by simpa [Notified, hloc] using hnotified)

theorem own_ownStep (a : Answers) : Own (OwnStep (X := X) (C := C)) a := ⟨rfl, rfl, trivial⟩

/-- The thread can get to its loop, with nothing left to do. -/
theorem leads_quiescent (hstops : Stops B) (hfresh : ∀ c v, B.exiting (B.restore c v) = false)
    (c : C) {Q : DrivenLabel Label Display X C → Prop}
    (hQ : ∀ l, l.isProgress = true → Q (.worker l)) {s : Driven Daemon Display V W}
    (h : (driven driver B).Reachable s) (hloc : s.driver.loc = .select) :
    ∃ t w, (driven driver B).Leads Q s t ∧ Quiescent B t w ∧ t.driver = s.driver := by
  have hflag := (unflagged_of_reachable h (by simp [Running, hloc])).1
  obtain ⟨y, w, hy, hphase, hexit, hqueue, -⟩ :=
    Reconnect.leads_to_loop hstops hfresh c (Reconnect.reachable_system h) hflag
  exact ⟨{ s with system := y }, w,
    Reconnect.leads_worker (fun _ => Reconnect.isHandle_of_isProgress) hQ hy,
    ⟨hphase, hexit, hqueue, .inl hloc⟩, rfl⟩

end Daemon

end GamescopeIdle
