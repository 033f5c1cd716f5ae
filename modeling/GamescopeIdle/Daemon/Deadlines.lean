import GamescopeIdle.Config.Load
import GamescopeIdle.Daemon.Timing
import GamescopeIdle.Lib.Timespec

/-!
# GamescopeIdle.Daemon.Deadlines

The additions that form the daemon's deadlines, on clock readings that can overflow:
`last_activity + idle_timeout` and `now + IDLE_FOREVER` at the top of the loop, and
`now + dim_warning` in `enter_dim`.  `Instant + Duration` panics where the seconds
overflow.

The handlers and the loop are given once more with checked additions, and
`neverPanics_iff` says for which configurations none of them panics, up to which
reading of the clock; what the runtime then makes of a deadline is not looked at.
The state a panic leaves behind is kept, since `enter_dim` has put the dim overlay up
by then.
-/

namespace GamescopeIdle

/-- `Instant + Duration`, `none` where it panics. -/
def Instant.checkedAdd (t : Instant) (d : Duration) : Option Instant :=
  ((Timespec.ofNanos? t).bind fun ts => ts.checkedAdd (d / 1000000000) (d % 1000000000)).map Timespec.toNanos

theorem Instant.checkedAdd_eq_some_iff {t u : Instant} {d : Duration} :
    Instant.checkedAdd t d = some u ↔ t + d = u ∧ u < Timespec.limit := by
  have hsplit : d / 1000000000 * 1000000000 + d % 1000000000 = d := Nat.div_add_mod' d 1000000000
  have hnanos : d % 1000000000 < 1000000000 := Nat.mod_lt d (by decide)
  simp only [checkedAdd, Option.map_eq_some_iff, Option.bind_eq_some_iff,
    Timespec.ofNanos?_eq_some_iff, Timespec.checkedAdd_eq_some_iff hnanos, hsplit]
  constructor
  · rintro ⟨us, ⟨ts, rfl, hus⟩, rfl⟩
    exact ⟨hus.symm, us.toNanos_lt⟩
  · rintro ⟨rfl, hlt⟩
    have hlimit : Timespec.limit = 9223372036854775808 * 1000000000 := rfl
    obtain ⟨ts, hts⟩ := Timespec.exists_toNanos_eq (Nat.lt_of_le_of_lt (Nat.le_add_right t d) hlt)
    obtain ⟨us, hus⟩ := Timespec.exists_toNanos_eq hlt
    exact ⟨us, ⟨ts, hts, by rw [hus, hts]⟩, hus⟩

theorem Instant.checkedAdd_eq_none_iff {t : Instant} {d : Duration} :
    Instant.checkedAdd t d = none ↔ Timespec.limit ≤ t + d := by
  rw [Option.eq_none_iff_forall_ne_some]
  simp only [ne_eq, checkedAdd_eq_some_iff, not_and, Nat.not_lt, forall_eq']

namespace Machine

/-! ## the handlers -/

/-- `Machine::enter_dim`; an error is a panic, with the machine as it was then. -/
def enterDimChecked (env : Env) (m : Machine) : Except Machine Machine :=
  let m := m.request (.showAlpha m.cfg.dimAlpha)
  match Instant.checkedAdd env.now m.cfg.dimWarning with
  | some deadline => .ok { m with dimDeadline := deadline, state := .dim }
  | none => .error m

/-- `Machine::on_timeout`. -/
def onTimeoutChecked (env : Env) (inhibit : Option InhibitWatch)
    (screensaver : Option Screensaver.ScreenSaverWatch) (m : Machine) : Except Machine Machine :=
  match m.state with
  | .active =>
      if idleInhibited inhibit screensaver then .ok { m with lastActivity := env.now }
      else if m.cfg.dimWarningSecs = 0 then .ok (m.enterBlack env)
      else m.enterDimChecked env
  | .dim => .ok (m.enterBlack env)
  | .black => .ok m

/-- The loop body for one event; no other handler adds to a clock reading. -/
def handleChecked (env : Env) (e : Event) (m : Machine) : Except Machine Machine :=
  match e with
  | .timeout inhibit screensaver => m.onTimeoutChecked env inhibit screensaver
  | e => .ok (m.handle env e)

/-- The timer dims the machine. -/
structure Dims (e : Event) (m : Machine) : Prop where
  timeout : e.isTimeout = true
  active : m.state = .active
  notInhibited : e.inhibited = false
  warns : m.cfg.dimWarningSecs ≠ 0

theorem enterDimChecked_eq (env : Env) (m : Machine) :
    m.enterDimChecked env =
      if env.now + m.cfg.dimWarning < Timespec.limit then .ok (m.enterDim env)
      else .error (m.request (.showAlpha m.cfg.dimAlpha)) := by
  have hcfg : (m.request (.showAlpha m.cfg.dimAlpha)).cfg = m.cfg := rfl
  simp only [enterDimChecked, enterDim, hcfg]
  split
  · next deadline hadd =>
      obtain ⟨rfl, hfits⟩ := Instant.checkedAdd_eq_some_iff.mp hadd
      rw [if_pos hfits]
  · next hadd => rw [if_neg (Nat.not_lt.mpr (Instant.checkedAdd_eq_none_iff.mp hadd))]

/-- What a checked handler can do. -/
inductive CheckedOutcome (env : Env) (e : Event) (m : Machine) : Except Machine Machine → Prop
  /-- It panics where the machine dims too late for the clock, with the overlay shown. -/
  | panicked (hdims : m.Dims e) (hlate : Timespec.limit ≤ env.now + m.cfg.dimWarning) :
      CheckedOutcome env e m (.error (m.request (.showAlpha m.cfg.dimAlpha)))
  | returned (hfits : m.Dims e → env.now + m.cfg.dimWarning < Timespec.limit) :
      CheckedOutcome env e m (.ok (m.handle env e))

theorem onTimeoutChecked_outcome (env : Env) (inhibit : Option InhibitWatch)
    (screensaver : Option Screensaver.ScreenSaverWatch) (m : Machine) :
    CheckedOutcome env (.timeout inhibit screensaver) m (m.onTimeoutChecked env inhibit screensaver) := by
  have hreturned (hno : ¬ m.Dims (.timeout inhibit screensaver)) :
      CheckedOutcome env (.timeout inhibit screensaver) m (.ok (m.onTimeout env inhibit screensaver)) :=
    .returned fun h => absurd h hno
  cases hstate : m.state with
  | active =>
      by_cases hinh : idleInhibited inhibit screensaver = true
      · have hno : ¬ m.Dims (.timeout inhibit screensaver) := fun h => by
          simpa [Event.inhibited, hinh] using h.notInhibited
        simpa [onTimeoutChecked, onTimeout, hstate, hinh] using hreturned hno
      · by_cases hwarn : m.cfg.dimWarningSecs = 0
        · have hno : ¬ m.Dims (.timeout inhibit screensaver) := fun h => h.warns hwarn
          simpa [onTimeoutChecked, onTimeout, hstate, hinh, hwarn] using hreturned hno
        · have hdims : m.Dims (.timeout inhibit screensaver) :=
            ⟨rfl, hstate, by simpa [Event.inhibited] using hinh, hwarn⟩
          have hchecked : m.onTimeoutChecked env inhibit screensaver = m.enterDimChecked env := by
            simp [onTimeoutChecked, hstate, hinh, hwarn]
          have hhandle : m.enterDim env = m.handle env (.timeout inhibit screensaver) := by
            simp [handle, onTimeout, hstate, hinh, hwarn]
          rw [hchecked, enterDimChecked_eq]
          split
          · next hfits =>
              rw [hhandle]
              exact .returned fun _ => hfits
          · next hlate => exact .panicked hdims (Nat.not_lt.mp hlate)
  | dim =>
      have hno : ¬ m.Dims (.timeout inhibit screensaver) := fun h => by simpa [hstate] using h.active
      simpa [onTimeoutChecked, onTimeout, hstate] using hreturned hno
  | black =>
      have hno : ¬ m.Dims (.timeout inhibit screensaver) := fun h => by simpa [hstate] using h.active
      simpa [onTimeoutChecked, onTimeout, hstate] using hreturned hno

/-- **Inversion of a checked handler.** -/
theorem handleChecked_outcome (env : Env) (e : Event) (m : Machine) :
    CheckedOutcome env e m (m.handleChecked env e) := by
  cases e with
  | timeout inhibit screensaver => exact onTimeoutChecked_outcome env inhibit screensaver m
  | _ => exact .returned fun h => by simpa [Event.isTimeout] using h.timeout

end Machine

namespace Daemon

/-! ## the loop -/

/-- The deadline computed at the top of the loop. -/
def nextDeadlineChecked (m : Machine) (now : Instant) : Option Instant :=
  match m.state with
  | .active => Instant.checkedAdd m.lastActivity m.cfg.idleTimeout
  | .dim => some m.dimDeadline
  | .black => Instant.checkedAdd now idleForever

/-- A step; an error is a panic, with the daemon as it was then. -/
def stepChecked (d : Daemon) (l : Label) : Option (Except Daemon Daemon) :=
  match l with
  | .finish =>
      if d.loc = .top then
        match nextDeadlineChecked d.machine d.clock with
        | some deadline => some (.ok { d with deadline := deadline, loc := .select })
        | none => some (.error d)
      else none
  | .start a =>
      (d.current a).map fun c =>
        match d.machine.handleChecked (d.env a) c.1 with
        | .ok m => .ok { d.exec a c.1 c.2.1 c.2.2 with machine := m }
        | .error m => .error { d with machine := m }
  | l => (d.step l).map .ok

/-- The step panics. -/
def Panics (d : Daemon) (l : Label) : Prop := ∃ d', d.stepChecked l = some (.error d')

/-- The main loop up to its first panic. -/
def checkedLoop : Automaton Daemon Label where
  init := Init
  step d l := (d.stepChecked l).bind Except.toOption

/-- An addition of the step overflows. -/
inductive Overflows (d : Daemon) : Label → Prop
  | idle (hloc : d.loc = .top) (hstate : d.machine.state = .active)
      (hlate : Timespec.limit ≤ d.machine.lastActivity + d.machine.cfg.idleTimeout) : Overflows d .finish
  | never (hloc : d.loc = .top) (hstate : d.machine.state = .black)
      (hlate : Timespec.limit ≤ d.clock + idleForever) : Overflows d .finish
  | dim {a : Answers} {e : Event} {chosen : Instant} {queued : Bool}
      (hcurrent : d.current a = some (e, chosen, queued)) (hdims : d.machine.Dims e)
      (hlate : Timespec.limit ≤ d.clock + d.machine.cfg.dimWarning) : Overflows d (.start a)

theorem nextDeadlineChecked_eq_some {m : Machine} {now : Instant} {deadline : Instant}
    (h : nextDeadlineChecked m now = some deadline) : nextDeadline m now = deadline := by
  unfold nextDeadlineChecked at h
  unfold nextDeadline
  cases hstate : m.state <;> simp only [hstate] at h ⊢
  case active => exact (Instant.checkedAdd_eq_some_iff.mp h).1
  case dim => exact Option.some.inj h
  case black => exact (Instant.checkedAdd_eq_some_iff.mp h).1

theorem nextDeadlineChecked_eq_none_iff {m : Machine} {now : Instant} :
    nextDeadlineChecked m now = none ↔
      (m.state = .active ∧ Timespec.limit ≤ m.lastActivity + m.cfg.idleTimeout) ∨
        (m.state = .black ∧ Timespec.limit ≤ now + idleForever) := by
  unfold nextDeadlineChecked
  cases m.state <;> simp [Instant.checkedAdd_eq_none_iff]

/-- A step panics where an addition overflows. -/
theorem panics_of_overflows {d : Daemon} {l : Label} (h : d.Overflows l) : d.Panics l := by
  cases h with
  | idle hloc hstate hlate =>
      have hnone : nextDeadlineChecked d.machine d.clock = none :=
        nextDeadlineChecked_eq_none_iff.mpr (.inl ⟨hstate, hlate⟩)
      exact ⟨d, by simp [stepChecked, hloc, hnone]⟩
  | never hloc hstate hlate =>
      have hnone : nextDeadlineChecked d.machine d.clock = none :=
        nextDeadlineChecked_eq_none_iff.mpr (.inr ⟨hstate, hlate⟩)
      exact ⟨d, by simp [stepChecked, hloc, hnone]⟩
  | @dim a e chosen queued hcurrent hdims hlate =>
      have houtcome := Machine.handleChecked_outcome (d.env a) e d.machine
      generalize hchecked : d.machine.handleChecked (d.env a) e = r at houtcome
      cases houtcome with
      | panicked =>
          refine ⟨{ d with machine := d.machine.request (.showAlpha d.machine.cfg.dimAlpha) }, ?_⟩
          simp only [stepChecked, hcurrent, Option.map_some, hchecked]
      | returned hfits => exact absurd (hfits hdims) (Nat.not_lt.mpr hlate)

/-- And otherwise is a step of the main loop. -/
theorem stepChecked_of_not_overflows {d : Daemon} {l : Label} (h : ¬ d.Overflows l) :
    d.stepChecked l = (d.step l).map .ok := by
  cases l with
  | finish =>
      by_cases hloc : d.loc = .top
      · cases hdeadline : nextDeadlineChecked d.machine d.clock with
        | none =>
            rcases nextDeadlineChecked_eq_none_iff.mp hdeadline with ⟨hstate, hlate⟩ | ⟨hstate, hlate⟩
            · exact absurd (.idle hloc hstate hlate) h
            · exact absurd (.never hloc hstate hlate) h
        | some deadline =>
            simp [stepChecked, step, finish, hloc, hdeadline, nextDeadlineChecked_eq_some hdeadline]
      · simp [stepChecked, step, finish, hloc]
  | start a =>
      cases hcurrent : d.current a with
      | none => simp [stepChecked, step, start, hcurrent]
      | some c =>
          obtain ⟨e, chosen, queued⟩ := c
          have houtcome := Machine.handleChecked_outcome (d.env a) e d.machine
          generalize hchecked : d.machine.handleChecked (d.env a) e = r at houtcome
          cases houtcome with
          | panicked hdims hlate => exact absurd (.dim hcurrent hdims hlate) h
          | returned =>
              simp only [stepChecked, step, start, hcurrent, Option.map_some, hchecked]
              rfl
  | _ => rfl

theorem panics_iff {d : Daemon} {l : Label} : d.Panics l ↔ d.Overflows l := by
  constructor
  · rintro ⟨d', hpanic⟩
    by_contra hfits
    rw [stepChecked_of_not_overflows hfits] at hpanic
    obtain ⟨_, -, hok⟩ := Option.map_eq_some_iff.mp hpanic
    contradiction
  · exact panics_of_overflows

theorem step_checkedLoop {d d' : Daemon} {l : Label} (h : ¬ d.Panics l) (hstep : d.step l = some d') :
    checkedLoop.step d l = some d' := by
  show (d.stepChecked l).bind Except.toOption = some d'
  rw [stepChecked_of_not_overflows fun ho => h (panics_iff.mpr ho), hstep]
  rfl

theorem step_of_checkedLoop {d d' : Daemon} {l : Label} (h : checkedLoop.step d l = some d') :
    d.step l = some d' := by
  by_cases ho : d.Overflows l
  · obtain ⟨_, hpanic⟩ := panics_of_overflows ho
    simp [checkedLoop, hpanic, Except.toOption] at h
  · cases hstep : d.step l with
    | none => simp [checkedLoop, stepChecked_of_not_overflows ho, hstep] at h
    | some d₁ => simpa [checkedLoop, stepChecked_of_not_overflows ho, hstep, Except.toOption] using h

/-- The loop up to its first panic is the main loop. -/
theorem reachable_of_checkedLoop {d : Daemon} (h : checkedLoop.Reachable d) : loop.Reachable d := by
  have hinit : ∀ d, checkedLoop.init d → loop.init d := fun _ h => h
  have hstep : ∀ d l d', checkedLoop.step d l = some d' → d' = d ∨ ∃ l, loop.step d l = some d' :=
    fun _ l _ h => .inr ⟨l, step_of_checkedLoop h⟩
  exact h.simulate id hinit hstep

/-! ## the clock readings at which nothing panics -/

/-- The deadlines fit when the clock reads `latest` or less, in whole seconds: that of the
idle timeout, the one that stands for none, and that of the dim warning if an idle timeout
can have passed by then. -/
structure DeadlinesFit (cfg : Config) (latest : Timespec) : Prop where
  idle : latest.secs + cfg.idleTimeoutSecs.toNat < 9223372036854775808
  never : latest.secs + 3600 < 9223372036854775808
  dim : cfg.idleTimeoutSecs.toNat ≤ latest.secs →
    latest.secs + cfg.dimWarningSecs.toNat < 9223372036854775808

/-- A daemon with the configuration never panics while the clock reads `latest` or less. -/
def NeverPanics (cfg : Config) (latest : Timespec) : Prop :=
  ∀ d, checkedLoop.Reachable d → d.machine.cfg = cfg → d.clock ≤ latest.toNanos → ∀ l, ¬ d.Panics l

/-- The timer dims no earlier than an idle timeout after the clock's origin. -/
theorem idleTimeout_le_of_dims {d : Daemon} (h : loop.Reachable d) {a : Answers} {e : Event}
    {chosen : Instant} {queued : Bool} (hcurrent : d.current a = some (e, chosen, queued))
    (hdims : d.machine.Dims e) : d.machine.cfg.idleTimeout ≤ d.clock := by
  obtain ⟨s, htimely⟩ := timely_of_reachable h
  have hruns := current_runs hcurrent
  have hloc := hruns.of_isTimeout hdims.timeout
  have hdue := (htimely.timer chosen queued hloc).1 hdims.active
  have hpassed := Nat.le_trans hdue (htimely.chosen chosen hruns.chosen)
  exact Nat.le_trans (Nat.le_add_left _ _) hpassed

theorem neverPanics_of_fit {cfg : Config} {latest : Timespec} (h : DeadlinesFit cfg latest) :
    NeverPanics cfg latest := by
  intro d hreach hcfg hclock l hpanics
  have hloop := reachable_of_checkedLoop hreach
  have hnanos := latest.nanos_lt
  cases panics_iff.mp hpanics with
  | idle _ _ hlate =>
      have hlast := Nat.le_trans (now_of_reachable hloop) hclock
      have hidle := h.idle
      rw [hcfg] at hlate
      simp only [Timespec.limit, Timespec.toNanos, Config.idleTimeout, Duration.fromSecs] at hlate hlast
      omega
  | never _ _ hlate =>
      have hnow := Nat.le_trans hlate (Nat.add_le_add_right hclock idleForever)
      have hhour : (3600 : UInt64).toNat = 3600 := by decide
      have hnever := h.never
      simp only [Timespec.limit, Timespec.toNanos, idleForever, Duration.fromSecs, hhour] at hnow
      omega
  | dim hcurrent hdims hlate =>
      rw [hcfg] at hlate
      have hnow := Nat.le_trans hlate (Nat.add_le_add_right hclock cfg.dimWarning)
      have hpassed := Nat.le_trans (idleTimeout_le_of_dims hloop hcurrent hdims) hclock
      rw [hcfg] at hpassed
      simp only [Timespec.limit, Timespec.toNanos, Config.idleTimeout, Config.dimWarning,
        Duration.fromSecs] at hnow hpassed
      have hdim := h.dim (by omega)
      omega

/-- A daemon that enters its loop, with nothing waiting but, perhaps, a `SIGUSR1`. -/
def entering (cfg : Config) (lastActivity clock : Instant) (sigusr1 : Bool) : Daemon where
  machine := .start cfg true (Cec.new cfg (fun _ => false) []) lastActivity 0
  clock := clock
  sigusr1 := sigusr1

theorem init_entering {cfg : Config} {lastActivity clock : Instant} (h : lastActivity ≤ clock)
    (sigusr1 : Bool) : Init (entering cfg lastActivity clock sigusr1) where
  machine := ⟨cfg, true, fun _ => false, [], lastActivity, 0, rfl⟩
  loc := rfl
  started := h
  reports := ⟨[], rfl, .inl rfl, by simp⟩
  ctrlC := rfl

/-- Where nothing panics, the loop goes on. -/
theorem NeverPanics.reachable {cfg : Config} {latest : Timespec} (h : NeverPanics cfg latest)
    {d d' : Daemon} {l : Label} (hd : checkedLoop.Reachable d) (hcfg : d.machine.cfg = cfg)
    (hclock : d.clock ≤ latest.toNanos) (hstep : d.step l = some d') : checkedLoop.Reachable d' :=
  hd.step (step_checkedLoop (h d hd hcfg hclock l) hstep)

section
variable {cfg : Config} {latest : Timespec}

/-- The first turn of the loop, with activity just now. -/
theorem NeverPanics.idle (h : NeverPanics cfg latest) :
    latest.secs + cfg.idleTimeoutSecs.toNat < 9223372036854775808 := by
  have hnow : latest.toNanos ≤ latest.toNanos := Nat.le_refl _
  by_contra hlate
  have hoverflows : (entering cfg latest.toNanos latest.toNanos false).Overflows .finish := by
    refine .idle rfl rfl ?_
    simp only [entering, Machine.start, Timespec.limit, Timespec.toNanos, Config.idleTimeout,
      Duration.fromSecs]
    omega
  exact h _ (.init (init_entering hnow false)) rfl hnow .finish (panics_iff.mpr hoverflows)

/-- The turn after a `SIGUSR1`. -/
theorem NeverPanics.never (h : NeverPanics cfg latest) : latest.secs + 3600 < 9223372036854775808 := by
  have hnow : latest.toNanos ≤ latest.toNanos := Nat.le_refl _
  let entered := entering cfg latest.toNanos latest.toNanos true
  let waiting : Daemon :=
    { entered with deadline := nextDeadline entered.machine entered.clock, loc := .select }
  let black := (waiting.take .sigusr1).exec {} .sigusr1 latest.toNanos false
  have hentered : checkedLoop.Reachable entered := .init (init_entering hnow true)
  have hwaiting : checkedLoop.Reachable waiting := h.reachable hentered rfl hnow (l := .finish) rfl
  have htaken : checkedLoop.Reachable (waiting.take .sigusr1) :=
    h.reachable hwaiting rfl hnow (l := .choose .sigusr1) rfl
  have hblack : checkedLoop.Reachable black := h.reachable htaken rfl hnow (l := .start {}) rfl
  by_contra hlate
  have hoverflows : black.Overflows .finish := by
    refine .never rfl rfl ?_
    have hclock : black.clock = latest.toNanos := rfl
    have hhour : (3600 : UInt64).toNat = 3600 := by decide
    simp only [hclock, Timespec.limit, Timespec.toNanos, idleForever, Duration.fromSecs, hhour]
    omega
  exact h black hblack rfl hnow .finish (panics_iff.mpr hoverflows)

/-- The first timer, when there has been no activity since the clock's origin. -/
theorem NeverPanics.dim (h : NeverPanics cfg latest) (hpassed : cfg.idleTimeoutSecs.toNat ≤ latest.secs) :
    latest.secs + cfg.dimWarningSecs.toNat < 9223372036854775808 := by
  have hnow : latest.toNanos ≤ latest.toNanos := Nat.le_refl _
  have hsecs := latest.secs_lt
  let entered := entering cfg 0 latest.toNanos false
  let waiting : Daemon :=
    { entered with deadline := nextDeadline entered.machine entered.clock, loc := .select }
  have hentered : checkedLoop.Reachable entered := .init (init_entering (Nat.zero_le _) false)
  have hwaiting : checkedLoop.Reachable waiting := h.reachable hentered rfl hnow (l := .finish) rfl
  have hready : waiting.ready .timer = true := by
    have hdue : 0 + cfg.idleTimeout ≤ latest.toNanos := by
      rw [Nat.zero_add]
      exact Nat.le_trans (Nat.mul_le_mul_right 1000000000 hpassed) (Nat.le_add_right _ _)
    exact decide_eq_true hdue
  have htaken : checkedLoop.Reachable (waiting.take .timer) :=
    h.reachable hwaiting rfl hnow (l := .choose .timer) (if_pos ⟨rfl, hready⟩)
  by_contra hlate
  have hwarns : cfg.dimWarningSecs ≠ 0 := by
    intro hzero
    rw [hzero] at hlate
    exact hlate hsecs
  have hoverflows : (waiting.take .timer).Overflows (.start {}) := by
    have hcurrent : (waiting.take .timer).current {} =
        some (.timeout none none, latest.toNanos, false) := rfl
    refine .dim hcurrent ⟨rfl, rfl, rfl, hwarns⟩ ?_
    have hclock : (waiting.take .timer).clock = latest.toNanos := rfl
    have hcfg : (waiting.take .timer).machine.cfg = cfg := rfl
    simp only [hclock, hcfg, Timespec.limit, Timespec.toNanos, Config.dimWarning, Duration.fromSecs]
    omega
  exact h _ htaken rfl hnow (.start {}) (panics_iff.mpr hoverflows)

end

/-- **Deadlines never overflow** up to a reading of the clock exactly if those that can be
formed by then fit. -/
theorem neverPanics_iff (cfg : Config) (latest : Timespec) :
    NeverPanics cfg latest ↔ DeadlinesFit cfg latest :=
  ⟨fun h => ⟨h.idle, h.never, h.dim⟩, neverPanics_of_fit⟩

/-- **What can be loaded never panics** only in the first second of the clock. -/
theorem loads_neverPanic_iff (latest : Timespec) :
    (∀ readToString parse defaultPath path cfg,
      Config.load readToString parse defaultPath path = .ok cfg → NeverPanics cfg latest) ↔
      latest.secs = 0 := by
  constructor
  · intro h
    obtain ⟨table, cfg, htable, hidle, -⟩ :=
      (Config.loads_timeouts_iff 9223372036854775807 30).mpr ⟨by decide, by decide⟩
    have hload : Config.load (fun _ => .ok "") (fun _ => some table) none (some "config.toml") =
        .ok cfg := by
      simp [Config.load, htable]
    have hfit := (neverPanics_iff cfg latest).mp (h _ _ _ _ cfg hload)
    have hlongest : cfg.idleTimeoutSecs.toNat = 9223372036854775807 := by rw [hidle]; rfl
    have hsum := hfit.idle
    omega
  · intro hsecs readToString parse defaultPath path cfg hload
    obtain ⟨hidle, hdim⟩ := Config.admitted_load hload
    refine (neverPanics_iff cfg latest).mpr ⟨?_, ?_, ?_⟩
    all_goals omega

/-- The longest timeouts that can be loaded, with a clock that is past its first second:
an idle timeout of 2^63 - 1 seconds stops the daemon at its start, and a dim warning as
long stops it with the dim overlay shown. -/
theorem longest_timeouts_panic :
    (∃ cfg, Config.fromTable (Config.timeoutsTable 9223372036854775807 30) = some cfg ∧
      checkedLoop.init (entering cfg 1000000000 1000000000 false) ∧
      (entering cfg 1000000000 1000000000 false).Panics .finish) ∧
    ∃ cfg, Config.fromTable (Config.timeoutsTable 300 9223372036854775807) = some cfg ∧
      ∃ d d', checkedLoop.run (entering cfg 0 300000000000 false) [.finish, .choose .timer] = some d ∧
        d.stepChecked (.start {}) = some (.error d') ∧
        d'.machine.overlay = some [.showAlpha cfg.dimAlpha] := by
  have hidle : Config.fromTable (Config.timeoutsTable 9223372036854775807 30) = some _ :=
    Config.fromTable_timeoutsTable (by decide) (by decide)
  have hdim : Config.fromTable (Config.timeoutsTable 300 9223372036854775807) = some _ :=
    Config.fromTable_timeoutsTable (by decide) (by decide)
  refine ⟨⟨_, hidle, init_entering (Nat.le_refl _) false, _, rfl⟩, _, hdim, _, _, rfl, rfl, rfl⟩

end Daemon

end GamescopeIdle
