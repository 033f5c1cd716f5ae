import GamescopeIdle.Hid
import GamescopeIdle.Lib.Lines
import GamescopeIdle.Panel.Backoff

/-!
# GamescopeIdle.OverlayX11.Display

Which X display the external overlay connects to (`resolve_display`).

The process may be started before gamescope has told its display: then it inherits
no `DISPLAY`, and reads gamescope's environment file anew for every attempt to
connect.  `overlay_starts_late` is what that is for: however late the file is
written, and whatever was attempted before, the panel shows the machine's state
within the three seconds of the longest sleep.
-/

namespace GamescopeIdle

open Backoff (Timed paced)
open Hid (stripPrefix)
open Reconnect (Driven DrivenLabel driven)

/-! ## `resolve_display` -/

/-- What the process has inherited; it stays as it is. -/
structure Environ where
  display : Option String
  runtimeDir : Option String

/-- The display that `gamescope-environment` names, from what the file reads as. -/
def displayOf (file : Option String) : Option String := do
  let text ← file
  let value ← (text.toList.splitOn '\n').findSome? (stripPrefix "DISPLAY=".toList)
  let display := trim (.ofList value)
  if display.isEmpty then none else some display

/-- `resolve_display`, given what `gamescope-environment` reads as in the runtime
directory. -/
def resolveDisplay (env : Environ) (file : Option String) : Option String :=
  match env.display with
  | some display =>
      if display.isEmpty then env.runtimeDir.bind fun _ => displayOf file else some display
  | none => env.runtimeDir.bind fun _ => displayOf file

/-- An environment file with a line for `DISPLAY`. -/
def environmentFile (before after : List (List Char)) (value : List Char) : String :=
  .ofList (Lines.text '\n' (before ++ ("DISPLAY=".toList ++ value) :: after))

/-- The first `DISPLAY` line counts, whatever is written around it. -/
theorem displayOf_environmentFile {before after : List (List Char)} {value : List Char}
    (hlines : ∀ l ∈ before ++ value :: after, '\n' ∉ l)
    (hbefore : ∀ l ∈ before, ¬ "DISPLAY=".toList <+: l) :
    displayOf (some (environmentFile before after value)) =
      if (trim (.ofList value)).isEmpty then none else some (trim (.ofList value)) := by
  have hkey : '\n' ∉ "DISPLAY=".toList := by decide
  have hline : '\n' ∉ "DISPLAY=".toList ++ value := by
    intro h
    cases List.mem_append.mp h with
    | inl h => exact hkey h
    | inr h => exact hlines value (by simp) h
  have htext : (environmentFile before after value).toList =
      Lines.text '\n' (before ++ ("DISPLAY=".toList ++ value) :: after) := String.toList_ofList
  have hfound : ((environmentFile before after value).toList.splitOn '\n').findSome?
      (stripPrefix "DISPLAY=".toList) = some value := by
    rw [htext]
    refine Lines.findSome_records (fun l hl => hlines l (by simp [hl])) hline
      (fun l hl => hlines l (by simp [hl])) ?_ (Hid.stripPrefix_append _ value)
    exact fun l hl => if_neg (hbefore l hl)
  simp only [displayOf, Option.bind_eq_bind, Option.bind_some, hfound]

/-! ## a session that is still starting -/

/-- A step of the daemon with its X11 thread. -/
abbrev X11Label := DrivenLabel Label Display X11Screen X11Screen

/-- The daemon with its X11 thread on the clock, in the session it was started in. -/
structure Launch where
  timed : Timed (Driven Daemon Display Float X11Window)
  /-- What gamescope's environment file reads as. -/
  file : Option String := none
  /-- The names of the displays that are served, of which gamescope's Xwayland is one. -/
  served : List String := []
  /-- What the last attempt has resolved the display to. -/
  dialled : Option String := none

/-- Gamescope writes its file or starts or stops serving a display, or anything else
happens. -/
inductive LaunchLabel where
  | write (file : Option String)
  | serve (displays : List String)
  | other (l : X11Label)

/-- The thread begins an attempt. -/
def X11Label.dials : X11Label → Bool
  | .worker .test => true
  | _ => false

/-- The attempt succeeds. -/
def X11Label.connects : X11Label → Bool
  | .worker .connect => true
  | _ => false

/-- An attempt resolves the display when it begins, and can only connect to the display
that it has found; without one, `x11rb::connect(None)` has no `DISPLAY` either. -/
def Launch.step (env : Environ) (s : Launch) : LaunchLabel → Option Launch
  | .write file => some { s with file := file }
  | .serve displays => some { s with served := displays }
  | .other l =>
      if l.connects ∧ ∀ d ∈ s.served, s.dialled ≠ some d then none
      else
        ((paced (retrying x11)).step s.timed l).map fun t =>
          { s with timed := t, dialled := if l.dials then resolveDisplay env s.file else s.dialled }

/-- The session, in which nothing may be up yet. -/
def launch (env : Environ) : Automaton Launch LaunchLabel where
  init s := (paced (retrying x11)).init s.timed ∧ s.dialled = none
  step := Launch.step env

namespace Launch

variable {env : Environ}

theorem reachable_timed {s : Launch} (h : (launch env).Reachable s) :
    (paced (retrying x11)).Reachable s.timed := by
  have hinit : ∀ s, (launch env).init s → (paced (retrying x11)).init s.timed := by
    intro s hs
    exact hs.1
  refine h.simulate Launch.timed hinit ?_
  intro s l t hstep
  cases l with
  | write | serve =>
      obtain rfl := Option.some.inj hstep
      exact .inl rfl
  | other l =>
      have hstep' : Launch.step env s (.other l) = some t := hstep
      simp only [Launch.step, Option.ite_none_left_eq_some, Option.map_eq_some_iff] at hstep'
      obtain ⟨-, u, hu, rfl⟩ := hstep'
      exact .inr ⟨l, hu⟩

/-- What is no attempt to connect happens as it does without the session. -/
theorem step_other (env : Environ) {s : Launch} {l : X11Label}
    {t : Timed (Driven Daemon Display Float X11Window)}
    (hdials : l.dials = false) (hconnects : l.connects = false)
    (h : (paced (retrying x11)).step s.timed l = some t) :
    (launch env).step s (.other l) = some { s with timed := t } := by
  show Launch.step env s (.other l) = _
  simp [Launch.step, hdials, hconnects, h]

/-- Everything of a starting session but its own steps: the rest catches up, and an
attempt may fail. -/
def CatchesUp (a : Answers) : LaunchLabel → Prop
  | .write _ | .serve _ => False
  | .other (.worker .fail) => True
  | .other l => CatchUp a (fun _ => False) l

/-- What is no attempt to connect. -/
def Plain (a : Answers) (l : X11Label) : Prop :=
  CatchesUp a (.other l) ∧ l.dials = false ∧ l.connects = false

theorem leads_plain (env : Environ) {a : Answers} {s : Launch}
    {t : Timed (Driven Daemon Display Float X11Window)}
    (h : (paced (retrying x11)).Leads (Plain a) s.timed t) :
    (launch env).Leads (CatchesUp a) s { s with timed := t } := by
  obtain ⟨ls, hls, hrun⟩ := h
  induction ls generalizing s with
  | nil =>
      rw [Automaton.run_nil, Option.some.injEq] at hrun
      rw [← hrun]
      exact .refl s
  | cons l ls ih =>
      rw [Automaton.run_cons, Option.bind_eq_some_iff] at hrun
      obtain ⟨u, hu, hrest⟩ := hrun
      obtain ⟨hl, hdials, hconnects⟩ := hls l (by simp)
      have hhead := Automaton.Leads.of_step hl (step_other env hdials hconnects hu)
      have htail : (launch env).Leads (CatchesUp a) { s with timed := u } { s with timed := t } :=
        ih (s := { s with timed := u }) (fun l' hl' => hls l' (by simp [hl'])) hrest
      exact hhead.trans htail

variable {a : Answers}

theorem own_plain : Daemon.Own (Plain a) a :=
  ⟨⟨rfl, rfl, rfl⟩, ⟨trivial, rfl, rfl⟩, ⟨trivial, rfl, rfl⟩⟩

theorem sleeps_plain : Daemon.Sleeps (Plain a) :=
  ⟨fun _ => ⟨trivial, rfl, rfl⟩, ⟨rfl, rfl, rfl⟩, ⟨rfl, rfl, rfl⟩, ⟨rfl, rfl, rfl⟩⟩

theorem plain_of_isService {l : Reconnect.Label Display X11Screen X11Screen}
    (h : l.isService = true) : Plain a (.worker l) := by
  cases l <;> first | exact ⟨rfl, rfl, rfl⟩ | contradiction

/-- The thread is connected to a display that is served. -/
structure Joined (s : Launch) : Prop where
  linked : s.timed.base.system.phase.linked = true
  served : ∃ d ∈ s.served, s.dialled = some d

/-- An attempt that finds a display that is served connects to it. -/
theorem leads_dialled {s : Launch} {d : String} (hphase : s.timed.base.system.phase = .test)
    (hflag : s.timed.base.system.flag = false) (hresolve : resolveDisplay env s.file = some d)
    (hserved : d ∈ s.served) :
    ∃ t, (launch env).Leads (CatchesUp a) s t ∧ t.Joined ∧
      t.timed.base.driver = s.timed.base.driver := by
  have htest : (retrying x11).auto.step s.timed.base (.worker .test) =
      some { s.timed.base with system := { s.timed.base.system with phase := .connecting } } := by
    show (driven Daemon.driver x11).step s.timed.base (.worker .test) = _
    simp [driven, Driven.step, Reconnect.Label.isHandle, Reconnect.System.step, hphase, hflag]
  obtain ⟨u, hu, hubase⟩ := Backoff.paced_step htest fun hact => by
    simpa using Daemon.wake_of_act hact
  have hdial : (launch env).step s (.other (.worker .test)) =
      some { s with timed := u, dialled := some d } := by
    show Launch.step env s (.other (.worker .test)) = _
    simp [Launch.step, X11Label.connects, X11Label.dials, hu, hresolve]
  have hconnect : (retrying x11).auto.step u.base (.worker .connect) =
      some { u.base with system := { u.base.system with phase := .connected } } := by
    show (driven Daemon.driver x11).step u.base (.worker .connect) = _
    simp [driven, Driven.step, Reconnect.Label.isHandle, Reconnect.System.step, hubase]
  obtain ⟨v, hv, hvbase⟩ := Backoff.paced_step hconnect fun hact => by
    simpa using Daemon.wake_of_act hact
  have hanswered : (launch env).step { s with timed := u, dialled := some d }
      (.other (.worker .connect)) = some { s with timed := v, dialled := some d } := by
    show Launch.step env { s with timed := u, dialled := some d } (.other (.worker .connect)) = _
    simp [Launch.step, X11Label.connects, X11Label.dials, hv, hserved]
  have htestCatches : CatchesUp a (.other (.worker .test)) := rfl
  have hconnectCatches : CatchesUp a (.other (.worker .connect)) := rfl
  refine ⟨_, (Automaton.Leads.of_step htestCatches hdial).trans (.of_step hconnectCatches hanswered),
    ⟨?_, d, hserved, rfl⟩, ?_⟩
  · show v.base.system.phase.linked = true
    rw [hvbase]
    rfl
  · show v.base.driver = s.timed.base.driver
    rw [hvbase, hubase]

/-- From its sleep the thread gets to a new attempt, which reads the file again. -/
theorem leads_redialled {s : Launch} {d : String} (h : (launch env).Reachable s)
    (hloc : s.timed.base.driver.loc = .select) (hresolve : resolveDisplay env s.file = some d)
    (hserved : d ∈ s.served) {y : Reconnect.System Display Float X11Window}
    (hy : (Reconnect.automaton x11).Leads (fun l => l = .uninstall ∨ l = .retest)
      s.timed.base.system y) (hsleeping : y.phase = .sleeping) (hflag : y.flag = false) :
    ∃ t, (launch env).Leads (CatchesUp a) s t ∧ t.Joined ∧ t.timed.base.driver.loc = .select ∧
      t.timed.base.driver.clock ≤ s.timed.base.driver.clock + Duration.fromSecs 3 := by
  obtain ⟨u, hu, hsystem, hloc', -, hclock⟩ :=
    Daemon.leads_test sleeps_plain (reachable_timed h) hy hsleeping
  obtain ⟨t, ht, hjoined, hdriver⟩ := leads_dialled (a := a)
    (s := { s with timed := u }) (by rw [hsystem]) (by rw [hsystem]; exact hflag) hresolve hserved
  exact ⟨t, (leads_plain env hu).trans ht, hjoined, hdriver ▸ hloc'.trans hloc, hdriver ▸ hclock⟩

theorem unflagged {s : Launch} (h : (launch env).Reachable s)
    (hloc : s.timed.base.driver.loc = .select) : s.timed.base.system.flag = false :=
  (Daemon.unflagged_of_reachable (Backoff.reachable_base (reachable_timed h))
    (by simp [Daemon.Running, hloc])).1

/-- What a run has left of a thread that is not told to stop. -/
theorem leads_rested {s : Launch} (h : (launch env).Reachable s)
    (hloc : s.timed.base.driver.loc = .select) :
    s.timed.base.system.phase.linked = true ∨ s.timed.base.system.phase = .test ∨
      s.timed.base.system.phase = .connecting ∨
      ∃ y, (Reconnect.automaton x11).Leads (fun l => l = .uninstall ∨ l = .retest)
        s.timed.base.system y ∧ y.phase = .sleeping ∧ y.flag = false :=
  Reconnect.leads_to_sleep stops_x11 X11Window.destroyed_restore
    (Reconnect.reachable_system (Backoff.reachable_base (reachable_timed h))) (unflagged h hloc)

/-- A thread whose connection or attempt is out of date loses it, and dials anew. -/
theorem leads_over {s : Launch} {d : String} (h : (launch env).Reachable s)
    (hloc : s.timed.base.driver.loc = .select) (hresolve : resolveDisplay env s.file = some d)
    (hserved : d ∈ s.served)
    (hphase : s.timed.base.system.phase = .connecting ∨ s.timed.base.system.phase.linked = true) :
    ∃ t, (launch env).Leads (CatchesUp a) s t ∧ t.Joined ∧ t.timed.base.driver.loc = .select ∧
      t.timed.base.driver.clock ≤ s.timed.base.driver.clock + Duration.fromSecs 3 := by
  obtain ⟨z, hz, hover⟩ := Reconnect.leads_to_over (B := x11) hphase
  obtain ⟨u, hu, hubase⟩ := Daemon.leads_thread (Q := Plain a)
    (by rintro l (rfl | rfl) <;> rfl) (by simp)
    (by rintro l (rfl | rfl); exacts [⟨rfl, rfl, rfl⟩, ⟨trivial, rfl, rfl⟩]) hz
  have hleads := leads_plain env (s := s) hu
  have hreach := h.leads hleads
  have hloc' : u.base.driver.loc = .select := by rw [hubase]; exact hloc
  have hclock : u.base.driver.clock = s.timed.base.driver.clock := by rw [hubase]
  obtain hlinked | htest | hconnecting | ⟨y, hy, hsleeping, hflag⟩ := leads_rested hreach hloc'
  · rcases hover with hz | hz <;> simp [hubase, hz, Reconnect.Phase.linked] at hlinked
  · rcases hover with hz | hz <;> simp [hubase, hz] at htest
  · rcases hover with hz | hz <;> simp [hubase, hz] at hconnecting
  · obtain ⟨t, ht, hjoined, hloc'', hclock'⟩ :=
      leads_redialled (a := a) (s := { s with timed := u }) hreach hloc' hresolve hserved hy
        hsleeping hflag
    exact ⟨t, hleads.trans ht, hjoined, hloc'', hclock ▸ hclock'⟩

/-- Within the longest sleep the thread can be connected to the display. -/
theorem leads_joined {s : Launch} {d : String} (h : (launch env).Reachable s)
    (hloc : s.timed.base.driver.loc = .select) (hresolve : resolveDisplay env s.file = some d)
    (hserved : d ∈ s.served) :
    ∃ t, (launch env).Leads (CatchesUp a) s t ∧ t.Joined ∧ t.timed.base.driver.loc = .select ∧
      t.timed.base.driver.clock ≤ s.timed.base.driver.clock + Duration.fromSecs 3 := by
  have hstay : s.timed.base.driver.clock ≤ s.timed.base.driver.clock + Duration.fromSecs 3 :=
    Nat.le_add_right _ _
  obtain hlinked | htest | hconnecting | ⟨y, hy, hsleeping, hflag⟩ := leads_rested h hloc
  · by_cases hon : ∃ d ∈ s.served, s.dialled = some d
    · exact ⟨s, .refl s, ⟨hlinked, hon⟩, hloc, hstay⟩
    · exact leads_over h hloc hresolve hserved (.inr hlinked)
  · obtain ⟨t, ht, hjoined, hdriver⟩ :=
      leads_dialled (a := a) htest (unflagged h hloc) hresolve hserved
    exact ⟨t, ht, hjoined, hdriver ▸ hloc, hdriver ▸ hstay⟩
  · exact leads_over h hloc hresolve hserved (.inl hconnecting)
  · exact leads_redialled h hloc hresolve hserved hy hsleeping hflag

end Launch

/-- **The overlay starts late, but it starts**: in every run of the daemon with its X11
thread in a session that comes up at any time, from every state in which the loop is
running and does not wait for a silent client and `resolve_display` finds a display
that is served, within three seconds the thread is connected to a display that is
served and the panel shows the machine's state. -/
theorem overlay_starts_late {env : Environ} {s : Launch} {d : String} (a : Answers)
    (h : (launch env).Reachable s) (hrun : s.timed.base.driver.Running)
    (hwedged : ¬ s.timed.base.driver.Wedged) (hresolve : resolveDisplay env s.file = some d)
    (hserved : d ∈ s.served) :
    ∃ t w, (launch env).Leads (Launch.CatchesUp a) s t ∧ Quiescent x11 t.timed.base w ∧
      (∃ d' ∈ t.served, t.dialled = some d') ∧
      w.applied = t.timed.base.driver.machine.state.opacity t.timed.base.driver.machine.cfg ∧
      t.timed.base.driver.clock ≤ s.timed.base.driver.clock + Duration.fromSecs 3 := by
  obtain ⟨u₁, hu₁, hloc₁, hclock₁⟩ :=
    Daemon.leads_waiting (Launch.own_plain (a := a)) (Launch.reachable_timed h) hrun hwedged
  have hs₁ := Launch.leads_plain env (s := s) hu₁
  have hreach₁ := h.leads hs₁
  obtain ⟨s₂, hs₂, hjoined, hloc₂, hclock₂⟩ :=
    Launch.leads_joined (a := a) hreach₁ hloc₁ hresolve hserved
  have hreach₂ := hreach₁.leads hs₂
  obtain ⟨u, w, hu, hq, hdriver⟩ := Daemon.leads_served stops_x11 X11Window.destroyed_restore
    { root := (1920, 1080), output := none } (fun _ => Launch.plain_of_isService (a := a))
    (Launch.reachable_timed hreach₂) hloc₂ hjoined.linked
  have hs₃ := Launch.leads_plain env (s := s₂) hu
  have hreach : (driven Daemon.driver x11).Reachable u.base :=
    Backoff.reachable_base (Launch.reachable_timed (hreach₂.leads hs₃))
  refine ⟨{ s₂ with timed := u }, w, (hs₁.trans hs₂).trans hs₃, hq, hjoined.served, ?_, ?_⟩
  · exact (hq.shows nothingLost_x11 hreach).applied
  · show u.base.driver.clock ≤ _
    rw [hdriver, ← hclock₁]
    exact hclock₂

/-- An attempt before gamescope has written its file and serves `:0`, and an explicit
blank. -/
def startingLate : List LaunchLabel :=
  [.other (.worker .test), .other (.worker .fail), .other (.worker .retest),
    .write (some (environmentFile ["PATH=/usr/bin".toList] [] ":0".toList)), .serve [":0"],
    .other (.drive .finish), .other (.drive (.raise .sigusr1)), .other (.drive (.choose .sigusr1)),
    .other (.drive (.start {})), .other .handle, .other .handle]

theorem overlay_starts_late_second :
    ∃ s, (launch { display := none, runtimeDir := some "/run/user/1000" }).run
        { timed := unconnected } startingLate = some s ∧
      s.timed.base.driver.machine.state = .black ∧
      ∃ t w, (launch { display := none, runtimeDir := some "/run/user/1000" }).Leads
          (Launch.CatchesUp {}) s t ∧ Quiescent x11 t.timed.base w ∧
        (∃ d' ∈ t.served, t.dialled = some d') ∧
        w.applied = t.timed.base.driver.machine.state.opacity t.timed.base.driver.machine.cfg ∧
        t.timed.base.driver.clock ≤ s.timed.base.driver.clock + Duration.fromSecs 3 := by
  obtain ⟨s, hrun, hblack, hloc, hfile, hserved⟩ :
      ∃ s, (launch { display := none, runtimeDir := some "/run/user/1000" }).run
          { timed := unconnected } startingLate = some s ∧
        s.timed.base.driver.machine.state = .black ∧ s.timed.base.driver.loc = .top ∧
        s.file = some (environmentFile ["PATH=/usr/bin".toList] [] ":0".toList) ∧
        s.served = [":0"] := ⟨_, rfl, rfl, rfl, rfl, rfl⟩
  have hresolve : resolveDisplay { display := none, runtimeDir := some "/run/user/1000" } s.file =
      some ":0" := by
    rw [hfile, resolveDisplay, Option.bind_some, displayOf_environmentFile (by decide) (by decide)]
    decide
  refine ⟨s, hrun, hblack, overlay_starts_late {} ⟨{ timed := unconnected }, startingLate,
    ⟨init_unconnected rfl, rfl⟩, hrun⟩ ?_ ?_ hresolve (by simp [hserved])⟩
  · simp [Daemon.Running, hloc]
  · simp [Daemon.Wedged, hloc]

end GamescopeIdle
