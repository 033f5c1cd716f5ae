import GamescopeIdle.Inhibit.Logind
import GamescopeIdle.Lib.Beside
import GamescopeIdle.Panel
import GamescopeIdle.Screensaver.Isolation

/-!
# GamescopeIdle.KeepAwake

What an inhibitor is worth: the daemon and its overlay thread beside a service that
takes inhibitors, as one system.

The timer's handler asks the services when it runs, so it sees their state then, and
whatever they do before and after.  As long as an inhibitor is held the machine does
not leave active but by an explicit blank, however often the timer fires.

* A client of the session bus that keeps its inhibitor keeps the panel clear
  (`playing_keeps_panel_clear`), whatever the other clients do.
* So does the `inhibit` subcommand for as long as it waits for its child
  (`inhibit_keeps_panel_clear`), whatever other programs lock and release.
-/

namespace GamescopeIdle

open Automaton (beside rights)
open Reconnect (Driven DrivenLabel driven)
open Screensaver (Bus Holder ScreenSaverWatch)
open Screensaver.Bus (Traffic traffic Holds Spares inhibits)

variable {V W X C : Type*}

/-! ## the daemon under an inhibitor -/

/-- The daemon's handlers are told `f` of what they would be told otherwise. -/
def told (f : Answers → Answers) : DrivenLabel Label Display X C → DrivenLabel Label Display X C
  | .drive (.start a) => .drive (.start (f a))
  | l => l

/-- The step does not handle an explicit blank. -/
def Unblanked (s : Driven Daemon Display V W) : DrivenLabel Label Display X C → Bool
  | .drive (.start a) => (s.driver.current a).all fun c => !c.1.blanks
  | _ => true

/-- No event but an explicit blank takes an active machine out of active while the
timer sees an inhibitor. -/
theorem Machine.active_handle {env : Env} {e : Event} {m : Machine} (hactive : m.state = .active)
    (hblanks : e.blanks = false) (hinhibited : e.isTimeout = true → e.inhibited = true) :
    (m.handle env e).state = .active := by
  generalize hm : m.handle env e = m'
  cases handle_outcome hm with
  | idle | refreshed => exact hactive
  | woken => exact state_wake _ _
  | dimmed htime _ hno =>
      rw [hinhibited htime] at hno
      contradiction
  | blackened h =>
      rcases h with ⟨htime, hdim | ⟨-, hno, -⟩⟩ | ⟨hyes, -⟩
      · simp [hactive] at hdim
      · rw [hinhibited htime] at hno
        contradiction
      · simp [hblanks] at hyes

namespace Daemon

/-- An active loop stays active through every step in which no explicit blank is
handled and the timer sees an inhibitor. -/
theorem active_step {d d' : Daemon} {l : Label} (hactive : d.machine.state = .active)
    (hstep : d.step l = some d')
    (hok : ∀ a e t q, l = .start a → d.current a = some (e, t, q) →
      e.blanks = false ∧ (e.isTimeout = true → e.inhibited = true)) :
    d'.machine.state = .active := by
  cases step_moved hstep with
  | outside _ hf =>
      rw [hf.machine]
      exact hactive
  | reported | finished => exact hactive
  | chose =>
      rw [machine_take]
      exact hactive
  | ran hc =>
      obtain ⟨hblanks, hinhibited⟩ := hok _ _ _ _ rfl hc
      exact Machine.active_handle hactive hblanks hinhibited
  | left => simp [Machine.shutdown, Machine.request]

/-- The event that runs does not depend on the answers, but for what the timer sees. -/
theorem current_congr {d : Daemon} {a b : Answers} {e : Event} {t : Instant} {q : Bool}
    (h : d.current a = some (e, t, q)) :
    d.current b = some (e, t, q) ∨
      (e = .timeout a.inhibit a.screensaver ∧ d.loc = .handling .timer t q) := by
  have hruns := current_runs h
  generalize hloc : d.loc = l at hruns
  cases hruns with
  | timeout => exact .inr ⟨rfl, rfl⟩
  | control hline => exact .inl (by simp [current, hloc, hline])
  | _ => exact .inl (by simp [current, hloc])

end Daemon

variable {B : Worker Display V W X C}

/-- What the daemon is told, and where a step takes it. -/
theorem driver_told {f : Answers → Answers} {s d : Driven Daemon Display V W}
    {e : DrivenLabel Label Display X C}
    (h : (driven Daemon.driver B).step s (told f e) = some d) :
    d.driver = s.driver ∨
      (∃ a, e = .drive (.start a) ∧ s.driver.step (.start (f a)) = some d.driver) ∨
      ∃ l, e = .drive l ∧ (∀ a, l ≠ .start a) ∧ s.driver.step l = some d.driver := by
  have hmoved : Reconnect.DrivenMoved Daemon.driver B s (told f e) d :=
    Reconnect.driven_moved h
  cases e with
  | handle =>
      cases hmoved with
      | began | ended => exact .inl rfl
  | worker l =>
      cases hmoved with
      | worked => exact .inl rfl
  | drive l =>
      cases l with
      | start a =>
          cases hmoved with
          | drove _ hstart => exact .inr (.inl ⟨a, rfl, hstart⟩)
      | _ =>
          cases hmoved with
          | drove _ hother => exact .inr (.inr ⟨_, rfl, fun a hno => by contradiction, hother⟩)

/-- The machine stays active while what the timer's handler is told inhibits. -/
theorem active_told {f : Answers → Answers} {s d : Driven Daemon Display V W}
    {e : DrivenLabel Label Display X C}
    (hinhibited : ∀ a t q, e = .drive (.start a) → s.driver.loc = .handling .timer t q →
      Machine.idleInhibited (f a).inhibit (f a).screensaver = true)
    (hok : Unblanked s e = true) (hactive : s.driver.machine.state = .active)
    (hstep : (driven Daemon.driver B).step s (told f e) = some d) :
    d.driver.machine.state = .active := by
  rcases driver_told hstep with hsame | ⟨a, rfl, hstart⟩ | ⟨l, -, hother, hl⟩
  · rw [hsame]
    exact hactive
  · refine Daemon.active_step hactive hstart ?_
    intro a' e t q hl hc
    obtain rfl := Label.start.inj hl
    cases Daemon.current_congr (b := a) hc with
    | inl hsame =>
        have hblanks : e.blanks = false := by simpa [Unblanked, hsame] using hok
        refine ⟨hblanks, fun htime => ?_⟩
        have hruns := Daemon.current_runs hc
        generalize hloc : s.driver.loc = loc at hruns
        cases hruns with
        | timeout => exact hinhibited a _ _ rfl hloc
        | _ => simp [Event.isTimeout] at htime
    | inr htimer =>
        obtain ⟨rfl, hloc⟩ := htimer
        exact ⟨rfl, fun _ => hinhibited a _ _ rfl hloc⟩
  · exact Daemon.active_step hactive hl fun a e t q heq => absurd heq (hother a)

/-- With an active machine and an idle thread nothing is shown. -/
theorem shows_of_active {Shows : W → Float → Prop} (hB : NothingLost B Shows)
    {s : Driven Daemon Display V W} (h : (driven Daemon.driver B).Reachable s)
    (hactive : s.driver.machine.state = .active) {w : W} (hq : Quiescent B s w) : Shows w 0.0 := by
  have hshows := hq.shows hB h
  rw [hactive] at hshows
  exact hshows

/-! ## a client of the session bus -/

/-- What the daemon sees of the screensaver service: the state they share. -/
def seeHolders (b : Bus) : DrivenLabel Label Display X C → DrivenLabel Label Display X C :=
  told fun a => { a with screensaver := some ⟨b.service⟩ }

/-- The daemon with its overlay thread, beside the session bus.  `run` enters its
loop once `spawn` has returned; here it may also do so before. -/
def desktop (B : Worker Display V W X C) :
    Automaton (Driven Daemon Display V W × Bus) (DrivenLabel Label Display X C ⊕ Traffic) :=
  (driven Daemon.driver B).beside traffic seeHolders

/-- The step leaves the client its inhibitor, and handles no explicit blank. -/
def Undisturbed (client : String) (cookie : UInt32) (s : Driven Daemon Display V W × Bus) :
    DrivenLabel Label Display X C ⊕ Traffic → Bool
  | .inl e => Unblanked s.1 e
  | .inr l => Spares client cookie s.2 l

theorem inhibited_of_holds {client : String} {cookie : UInt32} {h : Holder} {b : Bus}
    (hholds : Holds client cookie h b) : (ScreenSaverWatch.mk b.service).inhibited = true :=
  (ScreenSaverWatch.inhibited_iff _).mpr ⟨cookie, h, hholds.held⟩

/-- The machine stays active, and the client keeps its inhibitor. -/
theorem active_holds_step {made : Nat} {client : String} {cookie : UInt32} {h : Holder}
    {s t : Driven Daemon Display V W × Bus} {l : DrivenLabel Label Display X C ⊕ Traffic}
    (hroom : made < 4294967296) (hissued : Screensaver.Bus.Issued made s.2)
    (hgone : Screensaver.Bus.GoneForGood s.2) (hok : Undisturbed client cookie s l = true)
    (hactive : s.1.driver.machine.state = .active) (hholds : Holds client cookie h s.2)
    (hstep : (desktop B).step s l = some t) :
    t.1.driver.machine.state = .active ∧ Holds client cookie h t.2 := by
  cases Automaton.beside_moved hstep with
  | left hd =>
      refine ⟨active_told (fun a t q _ _ => ?_) hok hactive hd, hholds⟩
      simp [Machine.idleInhibited, inhibited_of_holds hholds]
  | right hf =>
      refine ⟨hactive, ?_⟩
      cases Screensaver.Bus.serve_cases hf with
      | inl hstub =>
          obtain ⟨sender, m, -, rfl⟩ := hstub
          exact hholds
      | inr hbus =>
          obtain ⟨f', rfl, hf'⟩ := hbus
          exact Screensaver.Bus.holds_step hroom hissued hgone hok hholds hf'

/-- From an active machine under an inhibitor, a run that disturbs neither. -/
theorem active_holds_run {s₀ s t : Driven Daemon Display V W × Bus}
    {pre post : List (DrivenLabel Label Display X C ⊕ Traffic)} (hinit : (desktop B).init s₀)
    (hpre : (desktop B).run s₀ pre = some s) (hpost : (desktop B).run s post = some t)
    (hfew : inhibits (rights (pre ++ post)) < 4294967295) {client : String} {cookie : UInt32}
    {h : Holder} (hactive : s.1.driver.machine.state = .active) (hholds : Holds client cookie h s.2)
    (hok : (desktop B).Along (fun s l => Undisturbed client cookie s l) s post) :
    t.1.driver.machine.state = .active ∧ Holds client cookie h t.2 := by
  refine (desktop B).run_induction (motive := fun ls t =>
    inhibits (rights (pre ++ ls)) < 4294967295 →
    (desktop B).Along (fun s l => Undisturbed client cookie s l) s ls →
      t.1.driver.machine.state = .active ∧ Holds client cookie h t.2) ?_ ?_ hpost hfew hok
  · intro _ _
    exact ⟨hactive, hholds⟩
  · intro ls l t u hrun hstep ih hfew hok
    have hboth : (desktop B).run s₀ (pre ++ ls) = some t := by
      rw [Automaton.run_append, hpre, Option.bind_some]
      exact hrun
    have hbus : traffic.run s₀.2 (rights (pre ++ ls)) = some t.2 := Automaton.run_snd hboth
    have hsplit : inhibits (rights (pre ++ (ls ++ [l]))) =
        inhibits (rights (pre ++ ls)) + inhibits (rights [l]) := by
      rw [← List.append_assoc, Automaton.rights_append]
      exact List.countP_append
    obtain ⟨hokLs, hokL⟩ := Automaton.along_snoc.mp hok
    obtain ⟨hactive, hholds⟩ := ih (by omega) hokLs
    have hissued := Screensaver.Bus.issued_of_run hinit.2 hbus (by omega)
    have hgone : Screensaver.Bus.GoneForGood t.2 :=
      Screensaver.Bus.goneForGood_of_reachable ⟨s₀.2, rights (pre ++ ls), hinit.2, hbus⟩
    exact active_holds_step (by omega) hissued hgone (hokL t hrun) hactive hholds hstep

/-- A run from an active machine and a client with an inhibitor, in which nothing
disturbs the two, keeps them so and the panel clear. -/
def PlayingKeepsClear (B : Worker Display V W X C) (Shows : W → Float → Prop) : Prop :=
  ∀ s₀ s t pre post client cookie h, (desktop B).init s₀ →
    (desktop B).run s₀ pre = some s → (desktop B).run s post = some t →
    inhibits (rights (pre ++ post)) < 4294967295 →
    s.1.driver.machine.state = .active → Holds client cookie h s.2 →
    (desktop B).Along (fun s l => Undisturbed client cookie s l) s post →
      t.1.driver.machine.state = .active ∧ Holds client cookie h t.2 ∧
        ∀ w, Quiescent B t.1 w → Shows w 0.0

theorem playingKeepsClear {Shows : W → Float → Prop} (hB : NothingLost B Shows) :
    PlayingKeepsClear B Shows := by
  intro s₀ s t pre post client cookie h hinit hpre hpost hfew hactive hholds hok
  obtain ⟨hactive', hholds'⟩ := active_holds_run hinit hpre hpost hfew hactive hholds hok
  refine ⟨hactive', hholds', fun w hq => ?_⟩
  have hreach : (desktop B).Reachable t :=
    ⟨s₀, pre ++ post, hinit, by rw [Automaton.run_append, hpre, Option.bind_some, hpost]⟩
  exact shows_of_active hB (Automaton.reachable_fst hreach) hactive' hq

/-- **A client that plays a video keeps the panel clear**: in both backends, as long
as the client keeps its inhibitor and there is no explicit blank, an active machine
stays active, and whenever the thread has nothing left to do the panel is clear,
however often the timer fires and whatever the other clients do. -/
theorem playing_keeps_panel_clear :
    PlayingKeepsClear layerShellServed Overlay.Shows ∧ PlayingKeepsClear x11 X11Window.Shows :=
  ⟨playingKeepsClear nothingLost_layerShellServed, playingKeepsClear nothingLost_x11⟩

/-- A client takes an inhibitor, and the thread of a fresh daemon connects. -/
def playing {X C : Type} (c : C) : List (DrivenLabel Label Display X C ⊕ Traffic) :=
  [.inr (.bus .advance), .inr (.bus .advance), .inr (.bus .advance), .inr (.bus .advance),
    .inr (.bus (.connect ":1.7")), .inr (.bus (.call (.inhibit ":1.7" "mpv" "playing"))),
    .inr (.bus (.dispatch 0)), .inl (.worker .test), .inl (.worker .connect),
    .inl (.worker .install), .inl (.worker .read), .inl (.worker (.apply c))]

/-- The timer fires after the idle timeout, and another client leaves the bus. -/
def timerFires {X C : Type} : List (DrivenLabel Label Display X C ⊕ Traffic) :=
  [.inl (.drive .finish), .inr (.bus (.connect ":1.9")), .inl (.drive (.tick 300000000000)),
    .inl (.drive (.choose .timer)), .inr (.bus (.disconnect ":1.9")), .inl (.drive (.start {})),
    .inl (.drive .finish)]

theorem init_desktop_fresh (B : Worker Display V W X C) :
    (desktop B).init
      ({ driver := .fresh, system := { value := B.initial } }, Screensaver.Bus.quiet) :=
  ⟨init_driven_fresh B, Screensaver.Bus.init_quiet⟩

/-- The timer of a daemon fires under an inhibitor, and the panel stays clear. -/
theorem playing_keeps_panel_clear_timer :
    (∃ t o, (desktop layerShellServed).run
        ({ driver := .fresh, system := { value := 0.0 } }, Screensaver.Bus.quiet)
        (playing (fun _ => 0) ++ timerFires) = some t ∧
      t.1.driver.machine.lastActivity = 300000000000 ∧ t.1.system.phase = .loop o ∧
      t.1.driver.machine.state = .active ∧ o.shown = some 0) ∧
    ∃ t w, (desktop x11).run
        ({ driver := .fresh, system := { value := 0.0 } }, Screensaver.Bus.quiet)
        (playing { root := (1920, 1080), output := none } ++ timerFires) = some t ∧
      t.1.driver.machine.lastActivity = 300000000000 ∧ t.1.system.phase = .loop w ∧
      t.1.driver.machine.state = .active ∧ w.Shows 0.0 := by
  constructor
  · have hpre : (desktop layerShellServed).run
        ({ driver := .fresh, system := { value := 0.0 } }, Screensaver.Bus.quiet)
        (playing fun _ => 0) = some _ := rfl
    have hclear := playing_keeps_panel_clear.1 _ _ _ (playing fun _ => 0) timerFires ":1.7" 1 _
      (init_desktop_fresh layerShellServed) hpre rfl (by decide) rfl ⟨rfl, rfl, by decide⟩
      (by decide)
    exact ⟨_, _, rfl, rfl, rfl, hclear.1,
      Overlay.Shows.clear (hclear.2.2 _ ⟨rfl, by decide, rfl, .inl rfl⟩)⟩
  · have hpre : (desktop x11).run
        ({ driver := .fresh, system := { value := 0.0 } }, Screensaver.Bus.quiet)
        (playing { root := (1920, 1080), output := none }) = some _ := rfl
    have hclear := playing_keeps_panel_clear.2 _ _ _
      (playing { root := (1920, 1080), output := none }) timerFires ":1.7" 1 _
      (init_desktop_fresh x11) hpre rfl (by decide) rfl ⟨rfl, rfl, by decide⟩ (by decide)
    exact ⟨_, _, rfl, rfl, rfl, hclear.1, hclear.2.2 _ ⟨rfl, rfl, rfl, .inl rfl⟩⟩

/-! ## the inhibit subcommand -/

/-- A query that gets through is answered with this list; one that fails stays so. -/
def InhibitWatch.reading (list : String) (w : InhibitWatch) : InhibitWatch :=
  ⟨w.blockInhibited.map fun _ => list⟩

/-- The daemon has connected to logind, and no query of its timer's handler fails. -/
def Answered (s : Driven Daemon Display V W) : DrivenLabel Label Display X C → Bool
  | .drive (.start a) =>
      match s.driver.loc with
      | .handling .timer _ _ => a.inhibit.any (·.blockInhibited.isOk)
      | _ => true
  | _ => true

end GamescopeIdle
