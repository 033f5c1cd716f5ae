import GamescopeIdle.Lib.Automaton
import GamescopeIdle.Lib.Backoff
import GamescopeIdle.Lib.Beside
import GamescopeIdle.Lib.F64
import GamescopeIdle.Lib.History
import GamescopeIdle.Lib.I32
import GamescopeIdle.Lib.Lines
import GamescopeIdle.Lib.Reconnect
import GamescopeIdle.Lib.Reconnect.Runs
import GamescopeIdle.Lib.Reconnect.Driven
import GamescopeIdle.Lib.Registry
import GamescopeIdle.Lib.Stretch
import GamescopeIdle.Lib.Table
import GamescopeIdle.Lib.Timespec
import GamescopeIdle.Config
import GamescopeIdle.Config.Load
import GamescopeIdle.Control
import GamescopeIdle.Inhibit
import GamescopeIdle.Inhibit.Logind
import GamescopeIdle.Cec
import GamescopeIdle.Screensaver
import GamescopeIdle.Screensaver.Bus
import GamescopeIdle.Screensaver.Cookies
import GamescopeIdle.Screensaver.Isolation
import GamescopeIdle.Machine
import GamescopeIdle.Machine.Safety
import GamescopeIdle.Machine.Television
import GamescopeIdle.Daemon
import GamescopeIdle.Daemon.Steps
import GamescopeIdle.Daemon.Timing
import GamescopeIdle.Daemon.Schedule
import GamescopeIdle.Daemon.Activity
import GamescopeIdle.Daemon.Clients
import GamescopeIdle.Daemon.Deadlines
import GamescopeIdle.Control.Session
import GamescopeIdle.Control.Socket
import GamescopeIdle.Overlay
import GamescopeIdle.Overlay.Surface
import GamescopeIdle.Overlay.Served
import GamescopeIdle.OverlayX11
import GamescopeIdle.OverlayX11.Output
import GamescopeIdle.OverlayThread
import GamescopeIdle.OverlayThread.Slot
import GamescopeIdle.Input
import GamescopeIdle.Input.Axes
import GamescopeIdle.Input.Deadzone
import GamescopeIdle.Input.Rescan
import GamescopeIdle.Input.Hotplug
import GamescopeIdle.Hid
import GamescopeIdle.Hid.Reports
import GamescopeIdle.Hid.Rescan
import GamescopeIdle.Hid.Hotplug
import GamescopeIdle.Hid.Uevent
import GamescopeIdle.Panel
import GamescopeIdle.Panel.Moments
import GamescopeIdle.Panel.Wake
import GamescopeIdle.Panel.Shutdown
import GamescopeIdle.Panel.Backoff
import GamescopeIdle.Panel.Clock
import GamescopeIdle.Panel.Devices
import GamescopeIdle.OverlayX11.Display
import GamescopeIdle.KeepAwake
