/-!
# GamescopeIdle.Inhibit

The logind side of idle inhibition (`inhibit.rs`): how the daemon reads the
`BlockInhibited` property.  The property itself is logind's; a watch carries
the answer its proxy gives, text or a bus error.
-/

namespace GamescopeIdle

/-- `InhibitWatch`: what reading `BlockInhibited` through the proxy gives. -/
structure InhibitWatch where
  blockInhibited : Except String String

namespace InhibitWatch

/-- The colon-separated list contains the word `idle`. -/
def listsIdle (list : String) : Bool :=
  (list.toList.splitOn ':').any (· == "idle".toList)

/-- `InhibitWatch::idle_blocked`; a failing query counts as not blocked. -/
def idleBlocked (w : InhibitWatch) : Bool :=
  match w.blockInhibited with
  | .ok list => listsIdle list
  | .error _ => false

end InhibitWatch

end GamescopeIdle
