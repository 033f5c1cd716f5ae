/-!
# GamescopeIdle.Config

The configuration record of `config.rs` with its built-in defaults, and the
units of time the daemon computes in.

A `Duration` and an `Instant` are natural numbers of nanoseconds (an `Instant`
counts from the clock's origin), so deadlines never overflow here; where they would
is the subject of `GamescopeIdle.Daemon.Deadlines`.
-/

namespace GamescopeIdle

/-! ## time -/

/-- `std::time::Duration`, in nanoseconds. -/
abbrev Duration := Nat

/-- A reading of the monotonic clock, in nanoseconds since its origin. -/
abbrev Instant := Nat

/-- `Duration::from_secs`. -/
def Duration.fromSecs (secs : UInt64) : Duration := secs.toNat * 1000000000

/-! ## the configuration -/

/-- How to treat HDMI-CEC. -/
inductive CecMode where
  /-- Use CEC only if a `/dev/cec*` device is present. -/
  | auto
  /-- Never touch CEC. -/
  | off
  /-- Always attempt CEC. -/
  | on
deriving DecidableEq, Repr

/-- `Config`; the two timeouts are the `u64` second counts of the file. -/
structure Config where
  idleTimeoutSecs : UInt64 := 300
  dimWarningSecs : UInt64 := 30
  dimAlpha : Float := 0.5
  cec : CecMode := .auto
  cecDevice : String := "/dev/cec0"
  ignoreDevices : List String := []
  watchHidraw : Bool := true
  overlayBackend : String := "layer-shell"

/-- `Config::default`. -/
instance : Inhabited Config := ⟨{}⟩

namespace Config

/-- `Config::idle_timeout`. -/
def idleTimeout (cfg : Config) : Duration := .fromSecs cfg.idleTimeoutSecs

/-- `Config::dim_warning`. -/
def dimWarning (cfg : Config) : Duration := .fromSecs cfg.dimWarningSecs

end Config

end GamescopeIdle
