import GamescopeIdle.Cec
import GamescopeIdle.Control
import GamescopeIdle.Inhibit
import GamescopeIdle.Lib.Automaton
import GamescopeIdle.Screensaver

/-!
# GamescopeIdle.Machine

The blanking state machine (`Machine` in `daemon.rs`): its handlers, translated
one for one, and the automaton of all sequences of events the daemon loop can
hand to it.

The overlay handle and the CEC adapter are kept as the logs of what was asked
of them.  What a handler reads from outside — the clock, the file system, the
two inhibitor watches — is an argument.

Every proof about a step goes through `handle_outcome`: an event leaves the
machine alone, refreshes its idle timer, wakes it, dims it or blackens it, and
the constructor of `Outcome` says when.
-/

namespace GamescopeIdle

open Screensaver (ScreenSaverWatch)

/-! ## the state -/

/-- A request on the overlay handle (`OverlayControl`). -/
inductive OverlayRequest where
  | showAlpha (alpha : Float)
  | hide
  | quit

/-- A request that changes what the overlay shows. -/
def OverlayRequest.isDisplay : OverlayRequest → Bool
  | quit => false
  | _ => true

/-- `Machine`; `overlay` is `none` when the backend could not start, and
otherwise the requests made to its handle so far. -/
structure Machine where
  cfg : Config
  overlay : Option (List OverlayRequest)
  cec : Cec
  state : State
  lastActivity : Instant
  dimDeadline : Instant

/-- What a handler reads from the system: `Instant::now()` and `Path::exists`.
No path through a handler reads either of them twice. -/
structure Env where
  now : Instant
  pathExists : String → Bool

namespace Machine

/-- Make a request on the overlay handle, when there is one. -/
def request (r : OverlayRequest) (m : Machine) : Machine :=
  { m with overlay := m.overlay.map (· ++ [r]) }

/-! ## the handlers -/

/-- `Machine::wake`: remove the overlay and wake the TV if it was in standby. -/
def wake (env : Env) (m : Machine) : Machine :=
  let wasBlack := m.state == .black
  let m := m.request .hide
  let m := if wasBlack then { m with cec := m.cec.wake env.pathExists } else m
  { m with state := .active }

/-- `Machine::on_activity`: any real input. -/
def onActivity (env : Env) (m : Machine) : Machine :=
  let m := { m with lastActivity := env.now }
  if m.state ≠ .active then m.wake env else m

/-- `Machine::enter_dim`. -/
def enterDim (env : Env) (m : Machine) : Machine :=
  let m := m.request (.showAlpha m.cfg.dimAlpha)
  { m with dimDeadline := env.now + m.cfg.dimWarning, state := .dim }

/-- `Machine::enter_black`. -/
def enterBlack (env : Env) (m : Machine) : Machine :=
  let m := m.request (.showAlpha 1.0)
  { m with cec := m.cec.standby env.pathExists, state := .black }

/-- `logind_blocked || screensaver_blocked` of `on_timeout`. -/
def idleInhibited (inhibit : Option InhibitWatch) (screensaver : Option ScreenSaverWatch) : Bool :=
  inhibit.any (·.idleBlocked) || screensaver.any (·.inhibited)

/-- `Machine::on_timeout`. -/
def onTimeout (env : Env) (inhibit : Option InhibitWatch) (screensaver : Option ScreenSaverWatch)
    (m : Machine) : Machine :=
  match m.state with
  | .active =>
      -- an inhibitor defers blanking by a full cycle
      if idleInhibited inhibit screensaver then { m with lastActivity := env.now }
      else if m.cfg.dimWarningSecs = 0 then m.enterBlack env
      else m.enterDim env
  | .dim => m.enterBlack env
  | .black => m

/-- `Machine::force_blank`: straight to black, ignoring inhibitors. -/
def forceBlank (env : Env) (m : Machine) : Machine :=
  if m.state ≠ .black then m.enterBlack env else m

/-- `Machine::handle_control` once `read_line` has returned: `none` when it
failed, and then nothing is written back. -/
def handleControl (env : Env) (line : Option String) (m : Machine) : Machine × Option String :=
  match line with
  | none => (m, none)
  | some line =>
      match Command.parse line with
      | some .blank => (m.forceBlank env, some "ok\n")
      | some .wake => (wake env { m with lastActivity := env.now }, some "ok\n")
      | some .status => (m, some (m.state.toString ++ "\n"))
      | none => (m, some "error: unknown command\n")

/-- What `run` does once the loop is left. -/
def shutdown (env : Env) (m : Machine) : Machine := (m.wake env).request .quit

/-- The machine `run` starts its loop with. -/
def start (cfg : Config) (overlay : Bool) (cec : Cec) (lastActivity dimDeadline : Instant) :
    Machine :=
  { cfg := cfg
    overlay := if overlay then some [] else none
    cec := cec
    state := .active
    lastActivity := lastActivity
    dimDeadline := dimDeadline }

end Machine

/-! ## events -/

/-- What the loop of `run` hands to the machine. -/
inductive Event where
  /-- `act_rx.recv()`. -/
  | activity
  /-- The timer, with the watches as they are when it is handled. -/
  | timeout (inhibit : Option InhibitWatch) (screensaver : Option ScreenSaverWatch)
  | sigusr1
  | sigusr2
  /-- A control client, with the line read from it (`none`: unreadable). -/
  | control (line : Option String)

namespace Event

/-- The timer. -/
def isTimeout : Event → Bool
  | timeout _ _ => true
  | _ => false

/-- Input, `SIGUSR2` or the `wake` command. -/
def wakes : Event → Bool
  | activity | sigusr2 => true
  | control (some line) => Command.parse line == some .wake
  | _ => false

/-- An explicit blank: `SIGUSR1` or the `blank` command. -/
def blanks : Event → Bool
  | sigusr1 => true
  | control (some line) => Command.parse line == some .blank
  | _ => false

/-- A timer check that an inhibitor defers. -/
def inhibited : Event → Bool
  | timeout inhibit screensaver => Machine.idleInhibited inhibit screensaver
  | _ => false

theorem isTimeout_of_wakes {e : Event} (h : e.wakes = true) : e.isTimeout = false := by
  cases e <;> simp_all [wakes, isTimeout]

theorem wakes_of_isTimeout {e : Event} (h : e.isTimeout = true) : e.wakes = false := by
  cases e <;> simp_all [wakes, isTimeout]

theorem wakes_of_blanks {e : Event} (h : e.blanks = true) : e.wakes = false := by
  cases e with
  | control line =>
      cases line with
      | none => rfl
      | some line =>
          have hparse : Command.parse line = some .blank := by simpa [blanks] using h
          simp [wakes, hparse]
  | sigusr1 => rfl
  | _ => simp [blanks] at h

end Event

namespace Machine

/-- The loop body for one event. -/
def handle (env : Env) (e : Event) (m : Machine) : Machine :=
  match e with
  | .activity => m.onActivity env
  | .timeout inhibit screensaver => m.onTimeout env inhibit screensaver
  | .sigusr1 => m.forceBlank env
  | .sigusr2 => m.onActivity env
  | .control line => (m.handleControl env line).1

/-! ## what an event can do -/

/-- The machine with its idle timer restarted. -/
def touch (env : Env) (m : Machine) : Machine := { m with lastActivity := env.now }

/-- Everything one event can do to the machine, and when. -/
inductive Outcome (env : Env) (e : Event) (m : Machine) : Machine → Prop
  /-- Nothing changes. -/
  | idle (hwake : e.wakes = false) (hinh : m.state = .active → e.inhibited = false) :
      Outcome env e m m
  /-- The idle timer of an active machine restarts. -/
  | refreshed (hact : m.state = .active) (h : e.wakes = true ∨ e.inhibited = true) :
      Outcome env e m (m.touch env)
  /-- The machine wakes up. -/
  | woken (h : e.wakes = true) : Outcome env e m ((m.touch env).wake env)
  /-- The timer dims an active machine. -/
  | dimmed (htime : e.isTimeout = true) (hact : m.state = .active) (hinh : e.inhibited = false)
      (hwarn : m.cfg.dimWarningSecs ≠ 0) : Outcome env e m (m.enterDim env)
  /-- The timer, or an explicit blank, blackens the machine. -/
  | blackened
      (h : (e.isTimeout = true ∧
          (m.state = .dim ∨ m.state = .active ∧ e.inhibited = false ∧ m.cfg.dimWarningSecs = 0)) ∨
        (e.blanks = true ∧ m.state ≠ .black)) :
      Outcome env e m (m.enterBlack env)

theorem onActivity_outcome (env : Env) {e : Event} (he : e.wakes = true) (m : Machine) :
    Outcome env e m (m.onActivity env) := by
  by_cases hact : m.state = .active
  · have hm : m.onActivity env = m.touch env := by simp [onActivity, touch, hact]
    rw [hm]
    exact .refreshed hact (.inl he)
  · have hm : m.onActivity env = (m.touch env).wake env := by simp [onActivity, touch, hact]
    rw [hm]
    exact .woken he

theorem forceBlank_outcome (env : Env) {e : Event} (he : e.blanks = true)
    (hwake : e.wakes = false) (hinh : e.inhibited = false) (m : Machine) :
    Outcome env e m (m.forceBlank env) := by
  by_cases hblack : m.state = .black
  · have hm : m.forceBlank env = m := by simp [forceBlank, hblack]
    rw [hm]
    exact .idle hwake fun _ => hinh
  · have hm : m.forceBlank env = m.enterBlack env := by simp [forceBlank, hblack]
    rw [hm]
    exact .blackened (.inr ⟨he, hblack⟩)

theorem onTimeout_outcome (env : Env) (inhibit : Option InhibitWatch)
    (screensaver : Option ScreenSaverWatch) (m : Machine) :
    Outcome env (.timeout inhibit screensaver) m (m.onTimeout env inhibit screensaver) := by
  cases hs : m.state with
  | active =>
      by_cases hinh : idleInhibited inhibit screensaver
      · have hm : m.onTimeout env inhibit screensaver = m.touch env := by
          simp [onTimeout, touch, hs, hinh]
        rw [hm]
        exact .refreshed hs (.inr hinh)
      · have hno : (Event.timeout inhibit screensaver).inhibited = false := by
          simpa [Event.inhibited] using hinh
        by_cases hwarn : m.cfg.dimWarningSecs = 0
        · have hm : m.onTimeout env inhibit screensaver = m.enterBlack env := by
            simp [onTimeout, hs, hinh, hwarn]
          rw [hm]
          exact .blackened (.inl ⟨rfl, .inr ⟨hs, hno, hwarn⟩⟩)
        · have hm : m.onTimeout env inhibit screensaver = m.enterDim env := by
            simp [onTimeout, hs, hinh, hwarn]
          rw [hm]
          exact .dimmed rfl hs hno hwarn
  | dim =>
      have hm : m.onTimeout env inhibit screensaver = m.enterBlack env := by simp [onTimeout, hs]
      rw [hm]
      exact .blackened (.inl ⟨rfl, .inl hs⟩)
  | black =>
      have hm : m.onTimeout env inhibit screensaver = m := by simp [onTimeout, hs]
      rw [hm]
      exact .idle rfl fun h => by simp [hs] at h

theorem handleControl_outcome (env : Env) (line : Option String) (m : Machine) :
    Outcome env (.control line) m (m.handleControl env line).1 := by
  cases line with
  | none => exact .idle rfl fun _ => rfl
  | some line =>
      simp only [handleControl]
      cases hc : Command.parse line with
      | none => exact .idle (by simp [Event.wakes, hc]) fun _ => rfl
      | some c =>
          cases c with
          | blank =>
              exact forceBlank_outcome env (by simp [Event.blanks, hc])
                (by simp [Event.wakes, hc]) rfl m
          | wake => exact .woken (by simp [Event.wakes, hc])
          | status => exact .idle (by simp [Event.wakes, hc]) fun _ => rfl

/-- **Inversion of a step**: an event has one of the outcomes. -/
theorem handle_outcome {env : Env} {e : Event} {m m' : Machine} (h : m.handle env e = m') :
    Outcome env e m m' := by
  subst h
  cases e with
  | activity => exact onActivity_outcome env rfl m
  | timeout inhibit screensaver => exact onTimeout_outcome env inhibit screensaver m
  | sigusr1 => exact forceBlank_outcome env rfl rfl rfl m
  | sigusr2 => exact onActivity_outcome env rfl m
  | control line => exact handleControl_outcome env line m

/-! ## the fields after an outcome -/

@[simp] theorem state_wake (env : Env) (m : Machine) : (m.wake env).state = .active := rfl

@[simp] theorem cfg_wake (env : Env) (m : Machine) : (m.wake env).cfg = m.cfg := by
  simp only [wake]
  split <;> rfl

@[simp] theorem overlay_wake (env : Env) (m : Machine) :
    (m.wake env).overlay = m.overlay.map (· ++ [.hide]) := by
  simp only [wake]
  split <;> rfl

@[simp] theorem lastActivity_wake (env : Env) (m : Machine) :
    (m.wake env).lastActivity = m.lastActivity := by
  simp only [wake]
  split <;> rfl

@[simp] theorem dimDeadline_wake (env : Env) (m : Machine) :
    (m.wake env).dimDeadline = m.dimDeadline := by
  simp only [wake]
  split <;> rfl

/-- The TV is only woken out of black. -/
theorem cec_wake (env : Env) (m : Machine) :
    (m.wake env).cec = if m.state = .black then m.cec.wake env.pathExists else m.cec := by
  cases h : m.state <;> simp [wake, request, h]

@[simp] theorem state_touch (env : Env) (m : Machine) : (m.touch env).state = m.state := rfl

@[simp] theorem cfg_touch (env : Env) (m : Machine) : (m.touch env).cfg = m.cfg := rfl

@[simp] theorem overlay_touch (env : Env) (m : Machine) : (m.touch env).overlay = m.overlay := rfl

@[simp] theorem cec_touch (env : Env) (m : Machine) : (m.touch env).cec = m.cec := rfl

@[simp] theorem dimDeadline_touch (env : Env) (m : Machine) :
    (m.touch env).dimDeadline = m.dimDeadline := rfl

@[simp] theorem lastActivity_touch (env : Env) (m : Machine) :
    (m.touch env).lastActivity = env.now := rfl

@[simp] theorem state_enterDim (env : Env) (m : Machine) : (m.enterDim env).state = .dim := rfl

@[simp] theorem cfg_enterDim (env : Env) (m : Machine) : (m.enterDim env).cfg = m.cfg := rfl

@[simp] theorem overlay_enterDim (env : Env) (m : Machine) :
    (m.enterDim env).overlay = m.overlay.map (· ++ [.showAlpha m.cfg.dimAlpha]) := rfl

@[simp] theorem cec_enterDim (env : Env) (m : Machine) : (m.enterDim env).cec = m.cec := rfl

@[simp] theorem lastActivity_enterDim (env : Env) (m : Machine) :
    (m.enterDim env).lastActivity = m.lastActivity := rfl

@[simp] theorem dimDeadline_enterDim (env : Env) (m : Machine) :
    (m.enterDim env).dimDeadline = env.now + m.cfg.dimWarning := rfl

@[simp] theorem state_enterBlack (env : Env) (m : Machine) :
    (m.enterBlack env).state = .black := rfl

@[simp] theorem cfg_enterBlack (env : Env) (m : Machine) : (m.enterBlack env).cfg = m.cfg := rfl

@[simp] theorem overlay_enterBlack (env : Env) (m : Machine) :
    (m.enterBlack env).overlay = m.overlay.map (· ++ [.showAlpha 1.0]) := rfl

@[simp] theorem cec_enterBlack (env : Env) (m : Machine) :
    (m.enterBlack env).cec = m.cec.standby env.pathExists := rfl

@[simp] theorem lastActivity_enterBlack (env : Env) (m : Machine) :
    (m.enterBlack env).lastActivity = m.lastActivity := rfl

@[simp] theorem dimDeadline_enterBlack (env : Env) (m : Machine) :
    (m.enterBlack env).dimDeadline = m.dimDeadline := rfl

/-- The configuration never changes. -/
@[simp] theorem cfg_handle (env : Env) (e : Event) (m : Machine) :
    (m.handle env e).cfg = m.cfg := by
  generalize h : m.handle env e = m'
  cases handle_outcome h <;> simp

/-! ## the automaton of all event sequences -/

/-- The machine as an automaton: it starts as `run` builds it, for any
configuration, and every event can be handled in every state. -/
def automaton : Automaton Machine (Env × Event) where
  init m := ∃ cfg overlay pathExists dev lastActivity dimDeadline,
    m = start cfg overlay (Cec.new cfg pathExists dev) lastActivity dimDeadline
  step m e := some (m.handle e.1 e.2)

/-- The machine of a daemon with the default timeouts and no CEC adapter,
started when the clock reads zero. -/
def fresh : Machine := start { cec := .off } true { device := none } 0 0

theorem init_fresh : automaton.init fresh :=
  ⟨{ cec := .off }, true, fun _ => false, [], 0, 0, rfl⟩

theorem step_eq_some {m m' : Machine} {e : Env × Event} :
    automaton.step m e = some m' ↔ m.handle e.1 e.2 = m' := Option.some_inj

theorem reachable_handle {m : Machine} (h : automaton.Reachable m) (env : Env) (e : Event) :
    automaton.Reachable (m.handle env e) :=
  h.step (step_eq_some (e := (env, e)).mpr rfl)

end Machine

end GamescopeIdle
