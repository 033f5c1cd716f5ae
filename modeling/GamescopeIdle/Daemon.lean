import GamescopeIdle.Machine

/-!
# GamescopeIdle.Daemon

The main loop (`run` in `daemon.rs`) as an automaton: the `tokio::select!`, the
capacity-1 activity channel its watchers `try_send` to, the signals, the control
socket with its clients, and a clock that may advance at any moment.

The loop is at one of five places (`Loc`): at its top, where the deadline is
computed; in the `select!`; about to run the handler of the branch that was
chosen; in `handle_control`, waiting for a client's line; or stopped.  A handler
may take any time before and after the moment it reads the clock and changes
the machine, so that moment is a step of its own (`start`).

`log` is a history variable: it records the reports of the watchers and the
events handled, in order, and nothing reads it.
-/

namespace GamescopeIdle

open Screensaver (ScreenSaverWatch)

/-! ## the control socket's clients -/

/-- How a client's connection ended. -/
inductive Closing where
  | eof
  | error
deriving DecidableEq, Repr

/-- A control client, from the daemon's side: the bytes it has sent and whether
its end is closed. -/
structure Client where
  sent : List UInt8 := []
  closed : Option Closing := none
deriving DecidableEq, Repr

namespace Client

/-- A line from its bytes; not every line is UTF-8. -/
def decode (bytes : List UInt8) : Option String := String.fromUTF8? ⟨bytes.toArray⟩

/-- `read_line`: `none` while it has to wait; otherwise its result, which is
`none` in case of an error. -/
def readLine (c : Client) : Option (Option String) :=
  if 0x0A ∈ c.sent then some (decode (c.sent.takeWhile (· ≠ 0x0A) ++ [0x0A]))
  else
    match c.closed with
    | none => none
    | some .eof => some (decode c.sent)
    | some .error => some none

/-- The client sends bytes. -/
def send (bytes : List UInt8) (c : Client) : Client :=
  if c.closed = none then { c with sent := c.sent ++ bytes } else c

/-- The client's end goes away. -/
def close (how : Closing) (c : Client) : Client :=
  if c.closed = none then { c with closed := some how } else c

end Client

/-! ## the state of the loop -/

/-- The branches of the `select!` that stay in the loop. -/
inductive Branch where
  | recv
  | timer
  | sigusr1
  | sigusr2
  | accept
  | acceptFailed
deriving DecidableEq, Repr

/-- Where the loop is.  `chosen` is when the `select!` picked the branch, and
`queued` whether an activity notification was in the channel then. -/
inductive Loc where
  | top
  | select
  | handling (branch : Branch) (chosen : Instant) (queued : Bool)
  | reading (client : Client) (chosen : Instant) (queued : Bool)
  | stopped
deriving DecidableEq, Repr

/-- An event that has been handled: when its branch was chosen, the clock its
handler read, and the machine's state on both sides. -/
structure Handled where
  event : Event
  chosen : Instant
  time : Instant
  queued : Bool
  before : State
  after : State

/-- One entry of the history. -/
inductive Happening where
  /-- A watcher reported activity. -/
  | reported (time : Instant)
  | handled (h : Handled)

/-- The daemon in its main loop. -/
structure Daemon where
  machine : Machine
  clock : Instant
  deadline : Instant := 0
  loc : Loc := .top
  /-- A notification is in the activity channel. -/
  queued : Bool := false
  sigusr1 : Bool := false
  sigusr2 : Bool := false
  sigterm : Bool := false
  ctrlC : Bool := false
  /-- Connections that have not been accepted. -/
  backlog : List Client := []
  log : List Happening := []

/-! ## labels -/

/-- A task that watches an input device. -/
inductive Watcher where
  | evdev (path : String)
  | hidraw (path : String)

inductive Signal where
  | sigusr1
  | sigusr2
  | sigterm
  | sigint
deriving DecidableEq, Repr

/-- A step of a control client; `none` names the accepted client, `some i` one
in the backlog. -/
inductive ClientStep where
  | connect
  | send (client : Option Nat) (bytes : List UInt8)
  | close (client : Option Nat) (how : Closing)

/-- What a handler is told by the system. -/
structure Answers where
  pathExists : String → Bool := fun _ => false
  inhibit : Option InhibitWatch := none
  screensaver : Option ScreenSaverWatch := none

/-- One step of the daemon or of what surrounds it. -/
inductive Label where
  | tick (elapsed : Duration)
  /-- A watcher's `try_send`; `handover` lets it fail while the last
  notification is being handed over to the loop. -/
  | trySend (watcher : Watcher) (handover : Bool)
  | raise (signal : Signal)
  | client (step : ClientStep)
  | choose (branch : Branch)
  | start (answers : Answers)
  | finish
  /-- The `SIGTERM` branch, or `ctrl_c()`'s, and the end of `run`. -/
  | stop (signal : Signal) (answers : Answers)

namespace Label

/-- A step of a control client. -/
def isClient : Label → Bool
  | client _ => true
  | _ => false

/-- A step of the daemon itself. -/
def isDaemon : Label → Bool
  | choose _ | start _ | finish | stop _ _ => true
  | _ => false

end Label

namespace Daemon

/-! ## the steps -/

/-- Far-future sleep used to mean "no timer in this state". -/
def idleForever : Duration := .fromSecs 3600

/-- The deadline computed at the top of the loop. -/
def nextDeadline (m : Machine) (now : Instant) : Instant :=
  match m.state with
  | .active => m.lastActivity + m.cfg.idleTimeout
  | .dim => m.dimDeadline
  | .black => now + idleForever

/-- `try_send` on the capacity-1 channel: dropped when a notification is queued
(or is being handed over), otherwise queued. -/
def trySend (handover : Bool) (d : Daemon) : Option Daemon :=
  if d.loc = .stopped then none
  else
    let dropped :=
      match d.loc with
      | .handling .recv _ _ => handover
      | _ => false
    some { d with queued := d.queued || !dropped, log := d.log ++ [.reported d.clock] }

/-- A signal arrives.  The streams of `run` keep theirs; `ctrl_c()` is created
anew by every `select!` and only hears what arrives while it waits. -/
def raise (s : Signal) (d : Daemon) : Daemon :=
  match s with
  | .sigusr1 => { d with sigusr1 := true }
  | .sigusr2 => { d with sigusr2 := true }
  | .sigterm => { d with sigterm := true }
  | .sigint => { d with ctrlC := d.ctrlC || d.loc == .select }

/-- Change the state of one client. -/
def modifyClient (client : Option Nat) (f : Client → Client) (d : Daemon) : Option Daemon :=
  match client with
  | some i => if i < d.backlog.length then some { d with backlog := d.backlog.modify i f } else none
  | none =>
      match d.loc with
      | .reading c chosen queued => some { d with loc := .reading (f c) chosen queued }
      | _ => none

/-- A client's step. -/
def clientStep (s : ClientStep) (d : Daemon) : Option Daemon :=
  match s with
  | .connect => some { d with backlog := d.backlog ++ [{}] }
  | .send client bytes => d.modifyClient client (·.send bytes)
  | .close client how => d.modifyClient client (·.close how)

/-- The branch can be chosen. -/
def ready (d : Daemon) : Branch → Bool
  | .recv => d.queued
  | .timer => d.deadline ≤ d.clock
  | .sigusr1 => d.sigusr1
  | .sigusr2 => d.sigusr2
  | .accept => !d.backlog.isEmpty
  | .acceptFailed => true

/-- The branch is chosen; the futures of the others are dropped. -/
def take (d : Daemon) (b : Branch) : Daemon :=
  let d := { d with ctrlC := false }
  let handling := { d with loc := .handling b d.clock d.queued }
  match b with
  | .recv => { handling with queued := false }
  | .timer => handling
  | .sigusr1 => { handling with sigusr1 := false }
  | .sigusr2 => { handling with sigusr2 := false }
  | .accept =>
      match d.backlog with
      | c :: cs => { d with backlog := cs, loc := .reading c d.clock d.queued }
      | [] => d
  | .acceptFailed => { d with loc := .top }

/-- `tokio::select!`: any ready branch may be chosen. -/
def choose (b : Branch) (d : Daemon) : Option Daemon :=
  if d.loc = .select ∧ d.ready b = true then some (d.take b) else none

/-- The event whose handler runs next, with when it was chosen and what was
queued then; a client's is known once its line has been read. -/
def current (a : Answers) (d : Daemon) : Option (Event × Instant × Bool) :=
  match d.loc with
  | .handling .recv chosen queued => some (.activity, chosen, queued)
  | .handling .timer chosen queued => some (.timeout a.inhibit a.screensaver, chosen, queued)
  | .handling .sigusr1 chosen queued => some (.sigusr1, chosen, queued)
  | .handling .sigusr2 chosen queued => some (.sigusr2, chosen, queued)
  | .reading c chosen queued => c.readLine.map (.control ·, chosen, queued)
  | _ => none

/-- What the handlers read from the system now. -/
def env (a : Answers) (d : Daemon) : Env := { now := d.clock, pathExists := a.pathExists }

/-- The handler of `e` changes the machine. -/
def exec (a : Answers) (e : Event) (chosen : Instant) (queued : Bool) (d : Daemon) : Daemon :=
  let m := d.machine.handle (d.env a) e
  { d with
    machine := m
    loc := .top
    log := d.log ++ [.handled
      { event := e, chosen := chosen, time := d.clock, queued := queued
        before := d.machine.state, after := m.state }] }

/-- The handler of the chosen branch. -/
def start (a : Answers) (d : Daemon) : Option Daemon :=
  (d.current a).map fun c => d.exec a c.1 c.2.1 c.2.2

/-- The handler is done and the loop goes round. -/
def finish (d : Daemon) : Option Daemon :=
  if d.loc = .top then
    some { d with deadline := nextDeadline d.machine d.clock, loc := .select }
  else none

/-- The loop is left. -/
def stop (s : Signal) (a : Answers) (d : Daemon) : Option Daemon :=
  if d.loc = .select ∧ ((s = .sigterm ∧ d.sigterm = true) ∨ (s = .sigint ∧ d.ctrlC = true)) then
    some { d with machine := d.machine.shutdown (d.env a), loc := .stopped }
  else none

def step (d : Daemon) : Label → Option Daemon
  | .tick elapsed => some { d with clock := d.clock + elapsed }
  | .trySend _ handover => d.trySend handover
  | .raise s => some (d.raise s)
  | .client s => d.clientStep s
  | .choose b => d.choose b
  | .start a => d.start a
  | .finish => d.finish
  | .stop s a => d.stop s a

/-! ## the automaton -/

/-- The daemon when `run` enters its loop: watchers may already have reported
since the channel was created, signals and clients may already wait. -/
structure Init (d : Daemon) : Prop where
  machine : Machine.automaton.init d.machine
  loc : d.loc = .top
  started : d.machine.lastActivity ≤ d.clock
  reports : ∃ ts, d.log = ts.map .reported ∧ (ts = [] ∨ d.queued = true) ∧
    ∀ t ∈ ts, t ≤ d.clock
  ctrlC : d.ctrlC = false

/-- The main loop. -/
def loop : Automaton Daemon Label where
  init := Init
  step := step

@[simp] theorem step_loop (d : Daemon) (l : Label) : loop.step d l = d.step l := rfl

/-- A daemon that enters its loop with `Machine.fresh`. -/
def fresh : Daemon := { machine := .fresh, clock := 0 }

theorem init_fresh : Init fresh where
  machine := Machine.init_fresh
  loc := rfl
  started := Nat.le_refl 0
  reports := ⟨[], rfl, .inl rfl, by simp⟩
  ctrlC := rfl

/-- The events handled, without the reports. -/
def handledOf (log : List Happening) : List Handled :=
  log.filterMap fun
    | .handled h => some h
    | .reported _ => none

def handled (d : Daemon) : List Handled := handledOf d.log

/-- The loop has not been left. -/
def Running (d : Daemon) : Prop := d.loc ≠ .stopped

end Daemon

end GamescopeIdle
