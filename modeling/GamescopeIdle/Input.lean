import GamescopeIdle.Config
import GamescopeIdle.Control
import GamescopeIdle.Lib.I32
import GamescopeIdle.Lib.Table
import Mathlib.Data.List.Infix

/-!
# GamescopeIdle.Input

Input activity from the evdev nodes (`input.rs`): which devices are watched, the
deadzone of every absolute axis, and what an event stream reports.

`i32` arithmetic wraps, as in a release build.  The debug lines are left out, and
with them the throttle that only they read.
-/

namespace GamescopeIdle

namespace Input

/-! ## events and devices -/

/-- `evdev::EventType`, as far as the watcher tells the types apart. -/
inductive EventType where
  | key
  | relative
  | absolute
  /-- Any other type: `EV_SYN`, `EV_MSC`, force feedback and so on. -/
  | other (ty : UInt16)
deriving DecidableEq, Repr

/-- `evdev::InputEvent`. -/
structure InputEvent where
  eventType : EventType
  code : UInt16
  value : Int32
deriving DecidableEq, Repr

/-- The fields of the kernel's `input_absinfo` that the deadzone is derived from. -/
structure AbsInfo where
  minimum : Int32
  maximum : Int32
  flat : Int32
deriving DecidableEq, Repr

/-- `evdev::Device`, by what it answers. -/
structure Device where
  name : Option String
  supportedEvents : List EventType
  /-- `get_abs_state`: one record for each axis code, or an error. -/
  absState : Option (List AbsInfo)
deriving DecidableEq, Repr

/-- A remembered value for each axis code (`HashMap<u16, i32>`). -/
abbrev Axes := Table UInt16 Int32

/-! ## deadzones -/

/-- The deadzone of one axis: 5% of its range, but at least the kernel deadzone and
at least 1. -/
def absThreshold (info : AbsInfo) : Int32 :=
  let range := max (info.maximum - info.minimum) 0
  max (max (range / 20) info.flat.abs) 1

/-- `abs_thresholds`. -/
def absThresholds (dev : Device) : Axes :=
  match dev.absState with
  | some states =>
      states.zipIdx.foldl (fun map (info, code) => map.insert (.ofNat code) (absThreshold info)) ∅
  | none => ∅

/-- Device names never treated as user input. -/
def NAME_BLOCKLIST : List String := ["Video Bus"]

/-- `str::contains`. -/
def contains (s pattern : String) : Bool := pattern.toList <:+: s.toList

/-- `is_input_source`: the device can produce keyboard/button, pointer or axis events. -/
def isInputSource (dev : Device) : Bool :=
  dev.supportedEvents.contains .key || dev.supportedEvents.contains .relative ||
    dev.supportedEvents.contains .absolute

/-- `Path::file_name`, for the paths that `enumerate` yields. -/
def fileName (path : String) : String :=
  .ofList (path.toList.reverse.takeWhile (· != '/')).reverse

/-- What the scanner does with a node that it has opened. -/
inductive Verdict where
  /-- Nothing; the node is looked at again by the next pass. -/
  | skip
  /-- Its path is recorded, and no watcher is started. -/
  | block
  /-- Its path is recorded and a watcher is started. -/
  | watch
deriving DecidableEq, Repr

/-- The checks of `spawn` on a node whose path is not in the watched set. -/
def inspect (cfg : Config) (path : String) (dev : Device) : Verdict :=
  if cfg.ignoreDevices.any (· == fileName path) then .skip
  else if !isInputSource dev then .skip
  else if NAME_BLOCKLIST.any (contains (trim (dev.name.getD ""))) then .block
  else .watch

/-! ## what an event stream reports -/

/-- `is_activity`: whether the event is activity, and the axis values remembered
after it. -/
def isActivity (ev : InputEvent) (thresholds lastAbs : Axes) : Bool × Axes :=
  match ev.eventType with
  | .key | .relative => (true, lastAbs)
  | .absolute =>
      let threshold := (thresholds.lookup ev.code).getD 1
      let moved :=
        match lastAbs.lookup ev.code with
        | some prev => decide (threshold ≤ (ev.value - prev).abs)
        -- the first sample establishes a baseline
        | none => false
      (moved, lastAbs.insert ev.code ev.value)
  | .other _ => (false, lastAbs)

/-- The loop of `watch_device` over the events up to the end of the stream: for each
of them whether it sends on `tx`. -/
def watchFrom (thresholds : Axes) : Axes → List InputEvent → List Bool
  | _, [] => []
  | lastAbs, ev :: evs =>
      let (active, lastAbs') := isActivity ev thresholds lastAbs
      active :: watchFrom thresholds lastAbs' evs

/-- The events reported, for a table of deadzones. -/
def watch (thresholds : Axes) (evs : List InputEvent) : List Bool := watchFrom thresholds ∅ evs

/-- `watch_device`, for a device whose stream can be opened. -/
def watchDevice (dev : Device) (evs : List InputEvent) : List Bool := watch (absThresholds dev) evs

end Input

end GamescopeIdle
