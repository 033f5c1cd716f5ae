import GamescopeIdle.Lib.Table

/-!
# GamescopeIdle.Screensaver

The state of the session-bus `org.freedesktop.ScreenSaver` service
(`screensaver.rs`): the cookie counter, the table of holders, and the three
operations that touch it — `Inhibit`, `UnInhibit` and the reaper's `retain`.
-/

namespace GamescopeIdle.Screensaver

/-- `Holder`: one inhibitor that has not been released. -/
structure Holder where
  app : String
  reason : String
  /-- Unique bus name of the caller. -/
  sender : Option String
deriving DecidableEq, Repr

/-- `State` of the service. -/
structure State where
  nextCookie : UInt32
  holders : Table UInt32 Holder

namespace State

/-- `State::default`. -/
def default : State := { nextCookie := 0, holders := ∅ }

/-- The counter step of `inhibit`: `wrapping_add(1)`, skipping zero. -/
def bumpCookie (next : UInt32) : UInt32 :=
  let next := next + 1
  if next = 0 then 1 else next

/-- `ScreenSaver::inhibit`: the cookie handed out and the new state. -/
def inhibit (st : State) (applicationName reasonForInhibit : String) (sender : Option String) :
    UInt32 × State :=
  let cookie := bumpCookie st.nextCookie
  (cookie,
    { nextCookie := cookie
      holders := st.holders.insert cookie
        { app := applicationName, reason := reasonForInhibit, sender := sender } })

/-- `ScreenSaver::un_inhibit`. -/
def unInhibit (st : State) (cookie : UInt32) : State :=
  { st with holders := st.holders.erase cookie }

/-- The reaper's reaction to a vanished bus name. -/
def reap (st : State) (name : String) : State :=
  { st with holders := Table.retain (fun _ h => h.sender != some name) st.holders }

end State

/-- `NameOwnerChanged`, as the reaper reads it. -/
structure NameOwnerChanged where
  name : String
  newOwner : Option String

/-- One iteration of the reaper's loop. -/
def State.onNameOwnerChanged (st : State) (signal : NameOwnerChanged) : State :=
  if signal.newOwner.isSome then st else st.reap signal.name

/-- `ScreenSaverWatch`: the daemon's handle on the state. -/
structure ScreenSaverWatch where
  state : State

namespace ScreenSaverWatch

/-- `ScreenSaverWatch::inhibited`. -/
def inhibited (w : ScreenSaverWatch) : Bool := !w.state.holders.isEmpty

/-- Blanking is inhibited exactly while some cookie has a holder. -/
theorem inhibited_iff (w : ScreenSaverWatch) :
    w.inhibited = true ↔ ∃ c h, w.state.holders.lookup c = some h := by
  rw [← Table.isEmpty_eq_false_iff, inhibited, Bool.not_eq_true']

end ScreenSaverWatch

end GamescopeIdle.Screensaver
