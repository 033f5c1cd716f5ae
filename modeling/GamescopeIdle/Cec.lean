import GamescopeIdle.Config

/-!
# GamescopeIdle.Cec

HDMI-CEC control through `cec-ctl` (`cec.rs`).  The device node may come and go,
so every operation reads the file system: `pathExists` answers `Path::exists`.

The effects are kept as logs: `calls` are the `standby` and `wake` calls the
daemon made, `ran` the `cec-ctl` argument lists that were run for them.
-/

namespace GamescopeIdle

/-- A call the daemon makes on its `Cec`. -/
inductive CecCall where
  | standby
  | wake
deriving DecidableEq, Repr

/-- `Cec`, with what has been called and run on it so far. -/
structure Cec where
  device : Option String
  calls : List CecCall := []
  ran : List (List String) := []

namespace Cec

/-- `first_cec_device`: the first `/dev/cec*` path of the listing, in path order. -/
def firstCecDevice (dev : List String) : Option String :=
  ((dev.filter (·.startsWith "cec")).mergeSort (· ≤ ·)).head?.map ("/dev/" ++ ·)

/-- `Cec::new`. -/
def new (cfg : Config) (pathExists : String → Bool) (dev : List String) : Cec :=
  { device :=
      match cfg.cec with
      | .off => none
      | .on => some cfg.cecDevice
      | .auto => if pathExists cfg.cecDevice then some cfg.cecDevice else firstCecDevice dev }

/-- `Cec::active_device`. -/
def activeDevice (pathExists : String → Bool) (c : Cec) : Option String :=
  match c.device with
  | some d => if pathExists d then some d else none
  | none => none

/-- `Cec::run`: one `cec-ctl -d dev args` run; its outcome is only logged. -/
def run (dev : String) (args : List String) (c : Cec) : Cec :=
  { c with ran := c.ran ++ ["-d" :: dev :: args] }

/-- `Cec::standby`: put the TV into standby. -/
def standby (pathExists : String → Bool) (c : Cec) : Cec :=
  let c : Cec := { c with calls := c.calls ++ [.standby] }
  match c.activeDevice pathExists with
  | some dev => c.run dev ["--to", "0", "--standby"]
  | none => c

/-- `Cec::wake`: Image View On, then become the active source. -/
def wake (pathExists : String → Bool) (c : Cec) : Cec :=
  let c : Cec := { c with calls := c.calls ++ [.wake] }
  match c.activeDevice pathExists with
  | some dev => (c.run dev ["--to", "0", "--image-view-on"]).run dev
      ["--active-source", "phys-addr=0.0.0.0"]
  | none => c

@[simp] theorem calls_standby (pathExists : String → Bool) (c : Cec) :
    (c.standby pathExists).calls = c.calls ++ [.standby] := by
  simp only [standby]
  split <;> rfl

@[simp] theorem calls_wake (pathExists : String → Bool) (c : Cec) :
    (c.wake pathExists).calls = c.calls ++ [.wake] := by
  simp only [wake]
  split <;> rfl

end Cec

end GamescopeIdle
