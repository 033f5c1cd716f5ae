import GamescopeIdle.Lib.Reconnect.Runs
import GamescopeIdle.Overlay.Served
import GamescopeIdle.OverlayX11

/-!
# GamescopeIdle.OverlayThread

The two overlay backends as a handle and a thread that keeps reconnecting.

Both have the same two halves.  The handle (`OverlayHandle`, `X11OverlayHandle`)
writes `Shared.alpha`, or sets `Shared.quit`, and then sends a command if
`Shared.sender` holds a sender; the thread (`overlay_thread` and `run`) tests the
flag, connects, installs a sender, sets the connection up, reads and restores
`Shared.alpha`, and runs its command loop until it fails or has processed
`Quit`.  So both are instances of one automaton, and what differs is what they
write and how they execute a command.

* An update is never lost (`no_overlay_update_is_lost`): the handle writes
  before it looks for a sender, the thread installs one before it reads.
* A quit can be (`quit_is_heard_iff`): the thread tests the flag before it
  installs a sender, and not again.
-/

namespace GamescopeIdle

open Reconnect (System Phase Whole StopHeard StopIsHeard NotBlind Faithful Keeps Stops)

/-! ## the two backends -/

/-- A display request on a handle (`show` and `hide` of `OverlayControl`). -/
inductive Display where
  | showAlpha (alpha : Float)
  | hide

/-- The opacity that was last asked for; before any request it is zero. -/
def Display.opacity : Option Display → Float
  | some (.showAlpha alpha) => F64.opacity alpha
  | some .hide => 0.0
  | none => 0.0

/-- For a number, the opacity asked for is its alpha clamped to `[0, 1]`. -/
theorem Display.opacity_beq_clamp {alpha : Float} (h : alpha.isNaN = false) :
    (Display.opacity (some (.showAlpha alpha)) == F64.clamp alpha 0.0 1.0) = true :=
  F64.opacity_beq_clamp h

/-- The alpha that `OverlayHandle::set` writes and sends. -/
def layerShellAlpha : Display → Float
  | .showAlpha alpha => F64.clamp alpha 0.0 1.0
  | .hide => F64.clamp 0.0 0.0 1.0

/-- The layer-shell thread.  A dispatch of its event loop processes every command
that waits, so some may still follow `Quit`. -/
def layerShell : Worker Display Float Overlay Overlay.Event (Option Memory) where
  initial := 0.0
  write := layerShellAlpha
  restore := Overlay.restore
  exec
    | .request r => Overlay.onCmd (.showAlpha (layerShellAlpha r))
    | .stop => Overlay.onCmd .quit
  external := Overlay.onEvent
  exiting := Overlay.exit
  drains := true

/-- The layer-shell thread on connections that are served. -/
def layerShellServed : Worker Display Float Overlay Overlay.ServedEvent Memory where
  initial := layerShell.initial
  write := layerShell.write
  restore memory := layerShell.restore (some memory)
  exec := layerShell.exec
  external := Overlay.onServed
  exiting := layerShell.exiting
  drains := layerShell.drains

/-- The X11 thread, which returns from its loop at `Quit`. -/
def x11 : Worker Display Float X11Window X11Screen X11Screen where
  initial := 0.0
  write
    | .showAlpha alpha => alpha
    | .hide => 0.0
  restore := X11Window.restore
  exec
    | .request (.showAlpha alpha) => X11Window.onCmd (.showAlpha alpha)
    | .request .hide => X11Window.onCmd .hide
    | .stop => X11Window.onCmd .quit
  external := X11Window.onScreen
  exiting := X11Window.destroyed
  drains := false

/-- What happens to a thread whose connections are served is among what can happen to
any. -/
theorem restricts_layerShellServed : Reconnect.Restricts layerShellServed layerShell where
  initial := rfl
  write := rfl
  exec := rfl
  exiting := rfl
  drains := rfl
  restore memory _ := ⟨some memory, rfl⟩
  external e o := by
    show o.onServed e = o ∨ ∃ e', o.onServed e = o.onEvent e'
    unfold Overlay.onServed
    split
    · exact .inl rfl
    · exact .inr ⟨e.1, rfl⟩

/-- Served connections lead the thread and its handle nowhere else. -/
theorem reachable_layerShell {s : System Display Float Overlay}
    (h : (Reconnect.automaton layerShellServed).Reachable s) :
    (Reconnect.automaton layerShell).Reachable s := restricts_layerShellServed.reachable h

/-! ## what the backends do -/

theorem faithful_layerShellServed :
    Faithful layerShellServed (fun o => F64.opacity o.alpha) F64.opacity where
  restore memory alpha := congrArg F64.opacity (Overlay.alpha_restore (some memory) alpha)
  request r o _ := by
    have halpha : (o.setAlpha (layerShellAlpha r)).alpha = F64.clamp (layerShellAlpha r) 0.0 1.0 :=
      Overlay.alpha_setAlpha _ o
    exact (congrArg F64.opacity halpha).trans (F64.opacity_clamp _)
  external e o := congrArg F64.opacity (Overlay.alpha_onServed e o)

theorem stops_layerShell : Stops layerShell where
  request r o := Overlay.exit_setAlpha (layerShellAlpha r) o
  stop _ := rfl
  external e o := Overlay.exit_onEvent e o

theorem stops_layerShellServed : Stops layerShellServed where
  request := stops_layerShell.request
  stop := stops_layerShell.stop
  external e o := Overlay.exit_onServed e o

theorem faithful_x11 : Faithful x11 X11Window.applied F64.opacity where
  restore screen desired := X11Window.applied_restore screen desired
  request r w _ := by
    cases r with
    | showAlpha alpha => exact X11Window.applied_showAlpha alpha w
    | hide => exact (X11Window.applied_hide w).trans F64.opacity_zero.symm
  external _ _ := rfl

theorem stops_x11 : Stops x11 where
  request r w := by
    cases r with
    | showAlpha alpha => rfl
    | hide => exact X11Window.destroyed_hide w
  stop _ := rfl
  external _ _ := rfl

/-- What the shared alpha of the layer-shell backend stands for. -/
theorem opacity_layerShell (last : Option Display) :
    F64.opacity ((last.map layerShell.write).getD layerShell.initial) = Display.opacity last := by
  cases last with
  | none => exact F64.opacity_zero
  | some r =>
      cases r with
      | showAlpha alpha => exact F64.opacity_clamp alpha
      | hide => exact (F64.opacity_clamp 0.0).trans F64.opacity_zero

/-- What the shared alpha of the X11 backend stands for. -/
theorem opacity_x11 (last : Option Display) :
    F64.opacity ((last.map x11.write).getD x11.initial) = Display.opacity last := by
  cases last with
  | none => exact F64.opacity_zero
  | some r =>
      cases r with
      | showAlpha alpha => rfl
      | hide => exact F64.opacity_zero

theorem clamp_write_layerShell (r : Display) :
    F64.clamp (layerShell.write r) 0.0 1.0 = layerShell.write r := by
  cases r <;> exact F64.clamp_clamp _

/-- A connection that is served stays so, until the overlay quits. -/
theorem keeps_layerShellServed :
    Keeps layerShellServed (fun _ => True) (fun v => F64.clamp v 0.0 1.0 = v)
      (fun o => o.exit = false → o.Served) where
  initial := by decide
  write r _ := clamp_write_layerShell r
  restore memory _ hv _ := Overlay.served_restore memory hv
  request r o _ ho hexit := by
    have hold : o.exit = false := (Overlay.exit_setAlpha (layerShellAlpha r) o).symm.trans hexit
    exact Overlay.served_setAlpha (ho hold) _
  stop _ _ hexit := by contradiction
  external e o ho hexit := by
    have hold : o.exit = false := (Overlay.exit_onServed e o).symm.trans hexit
    exact Overlay.served_onServed (ho hold) e

/-- The X11 window is always filled with the pixel of what it shows. -/
theorem keeps_filled_x11 :
    Keeps x11 (fun _ => True) (fun _ => True) X11Window.Filled where
  initial := trivial
  write _ _ := trivial
  restore screen v _ := X11Window.filled_restore screen v
  request r w _ hw := by
    cases r with
    | showAlpha alpha => exact X11Window.filled_showAlpha alpha w
    | hide => exact X11Window.filled_hide hw
  stop _ hw := ⟨rfl, hw.pixel⟩
  external screen _ hw := X11Window.filled_onScreen screen hw

/-! ## no update is lost -/

/-- Whenever no display request is half done and the thread is in its loop with an empty
queue, the present connection shows the opacity last requested. -/
def NothingLost {V W X C : Type*} (B : Worker Display V W X C) (Shows : W → Float → Prop) : Prop :=
  ∀ (s : System Display V W) w, (Reconnect.automaton B).Reachable s → Whole s →
    s.phase = .loop w → B.exiting w = false → s.queue = [] → Shows w (Display.opacity s.last)

theorem served_of_reachable {s : System Display Float Overlay} {o : Overlay}
    (h : (Reconnect.automaton layerShellServed).Reachable s) (hphase : s.phase = .loop o)
    (hexit : o.exit = false) : o.Served :=
  (Reconnect.within_of_reachable keeps_layerShellServed h).loop o hphase hexit

theorem nothingLost_layerShellServed : NothingLost layerShellServed Overlay.Shows := by
  intro s o h hwhole hphase hexit hqueue
  have halpha : F64.opacity o.alpha = Display.opacity s.last := by
    rw [← opacity_layerShell]
    exact Reconnect.view_eq_want faithful_layerShellServed stops_layerShellServed h hwhole hphase
      hexit hqueue
  rw [← halpha]
  exact Overlay.shows_of_served (served_of_reachable h hphase hexit)

theorem nothingLost_x11 : NothingLost x11 X11Window.Shows := by
  intro s w h hwhole hphase hexit hqueue
  have hfilled := (Reconnect.within_of_reachable keeps_filled_x11 h).loop w hphase
  refine hfilled.shows ?_
  rw [← opacity_x11]
  exact Reconnect.view_eq_want faithful_x11 stops_x11 h hwhole hphase hexit hqueue

/-- **No overlay update is lost**: in both backends, whenever no display request
is half done and the thread is in its loop with an empty queue, the present
connection shows the opacity last requested, on the wire: but for a layer surface
that waits for its first `configure`, which shows nothing. -/
theorem no_overlay_update_is_lost :
    NothingLost layerShellServed Overlay.Shows ∧ NothingLost x11 X11Window.Shows :=
  ⟨nothingLost_layerShellServed, nothingLost_x11⟩

/-- In the same states it displays that opacity, or does so after one more event that the
other side owes it. -/
def OneEventAway {V W X C : Type*} (B : Worker Display V W X C) (owed : X → Prop)
    (Displays : W → Float → Prop) : Prop :=
  ∀ (s : System Display V W) w, (Reconnect.automaton B).Reachable s → Whole s →
    s.phase = .loop w → B.exiting w = false → s.queue = [] →
      Displays w (Display.opacity s.last) ∨
        ∃ x, owed x ∧ Displays (B.external x w) (Display.opacity s.last)

/-- All that a created surface waits for is its first `configure`. -/
theorem oneEventAway_layerShellServed :
    OneEventAway layerShellServed Overlay.Owed Overlay.Displays := by
  intro s o h hwhole hphase hexit hqueue
  cases hawaits : o.awaitsConfigure with
  | false =>
      have hshows : o.Shows (Display.opacity s.last) :=
        nothingLost_layerShellServed s o h hwhole hphase hexit hqueue
      exact .inl (hshows.mapped hawaits)
  | true =>
      have hfits : Overlay.Fits (1920, 1080) := by decide
      have hsurface : o.layer.isNone = false := by
        cases hlayer : o.layer with
        | none => simp [Overlay.awaitsConfigure, hlayer] at hawaits
        | some n => rfl
      have hconfigure : o.onServed ⟨.configure (1920, 1080), decide_eq_true hfits⟩ =
          o.configure (1920, 1080) := by
        simp [Overlay.onServed, hsurface, Overlay.onEvent]
      have hstep : (Reconnect.automaton layerShellServed).step s
          (.external ⟨.configure (1920, 1080), decide_eq_true hfits⟩) =
            some { s with phase := .loop (o.configure (1920, 1080)) } := by
        rw [← hconfigure]
        simp [Reconnect.automaton, System.step, hphase, layerShellServed]
      have hexit' : (o.configure (1920, 1080)).exit = false :=
        (Overlay.exit_onEvent (.configure (1920, 1080)) o).trans hexit
      have hshows := nothingLost_layerShellServed _ _ (h.step hstep) hwhole rfl hexit' hqueue
      have hmapped := Overlay.mapped_configure (served_of_reachable h hphase hexit) hfits
      refine .inr ⟨⟨.configure (1920, 1080), decide_eq_true hfits⟩, rfl, ?_⟩
      show (o.onServed ⟨.configure (1920, 1080), decide_eq_true hfits⟩).Displays _
      rw [hconfigure]
      exact hshows.mapped hmapped

theorem oneEventAway_x11 : OneEventAway x11 (fun _ => False) X11Window.Shows := by
  intro s w h hwhole hphase hexit hqueue
  exact .inl (nothingLost_x11 s w h hwhole hphase hexit hqueue)

/-- A request is made while the thread is disconnected, and the thread connects. -/
def reconnecting {X C : Type} (c : C) : List (Reconnect.Label Display X C) :=
  [.test, .fail, .write (.showAlpha 1.0), .send, .retest, .wake, .test, .connect, .install, .read,
    .apply c]

/-- The first `configure` of a small surface. -/
def firstConfigure : Overlay.ServedEvent := ⟨.configure (2, 1), by decide⟩

/-- It is restored with the connection, and in the layer-shell backend drawn at the first
`configure`. -/
theorem no_overlay_update_is_lost_reconnect :
    (∃ s o, (Reconnect.automaton layerShellServed).run { value := 0.0 }
        (reconnecting (fun _ => 0) ++ [.external firstConfigure]) = some s ∧
      s.phase = .loop o ∧ o.shown = some 255) ∧
    ∃ s w, (Reconnect.automaton x11).run { value := 0.0 }
        (reconnecting { root := (1920, 1080), output := none }) = some s ∧
      s.phase = .loop w ∧ w.applied = F64.opacity 1.0 ∧ w.pixel = 0xFF000000 := by
  constructor
  · have hrun : (Reconnect.automaton layerShellServed).run { value := 0.0 }
        (reconnecting (fun _ => 0) ++ [.external firstConfigure]) = some _ := rfl
    refine ⟨_, _, hrun, rfl, ?_⟩
    have hshows := no_overlay_update_is_lost.1 _ _ ⟨_, _, rfl, hrun⟩ (fun r => by simp) rfl
      (by decide) rfl
    exact (hshows.mapped (by decide)).trans (congrArg some (by decide))
  · have hrun : (Reconnect.automaton x11).run { value := 0.0 }
        (reconnecting { root := (1920, 1080), output := none }) = some _ := rfl
    have hshows := no_overlay_update_is_lost.2 _ _ ⟨_, _, rfl, hrun⟩ (fun r => by simp) rfl
      (by decide) rfl
    exact ⟨_, _, hrun, rfl, hshows.applied, hshows.pixel.trans (by decide)⟩

/-- The same on a connection that is not served to its end: there are no more buffers
when the overlay is to be hidden. -/
def bufferless : List (Reconnect.Label Display Overlay.Event (Option Memory)) :=
  reconnecting (some fun _ => 0) ++
    [.external (.configure (2, 1)), .external (.shm none), .write .hide, .send, .recv]

/-- What is shown is not always what was requested: a surface that waits for its first
`configure` shows nothing, and one that gets no buffer still shows its last frame. -/
theorem shown_differs_from_request :
    (∃ s o, (Reconnect.automaton layerShellServed).run { value := 0.0 }
        (reconnecting (fun _ => 0)) = some s ∧
      Whole s ∧ s.phase = .loop o ∧ o.exit = false ∧ s.queue = [] ∧
      Display.opacity s.last = 1.0 ∧ o.shown = some 0 ∧
      o.shown ≠ some (F64.alphaByte (Display.opacity s.last))) ∧
    ∃ s o, (Reconnect.automaton layerShell).run { value := 0.0 } bufferless = some s ∧
      Whole s ∧ s.phase = .loop o ∧ o.exit = false ∧ s.queue = [] ∧
      Display.opacity s.last = 0.0 ∧ o.awaitsConfigure = false ∧ o.shown = some 255 ∧
      o.shown ≠ some (F64.alphaByte (Display.opacity s.last)) := by
  constructor
  · refine ⟨_, _, rfl, ?_, rfl, by decide, rfl, by decide, by decide, by decide⟩
    exact fun r => by simp
  · refine ⟨_, _, rfl, ?_, rfl, by decide, rfl, rfl, by decide, by decide, by decide⟩
    exact fun r => by simp

/-! ## quit -/

/-- **When a quit is heard**: in both backends, in any run, every `quit` is heard
from its return on exactly if no `quit` looks for a sender between the thread's
test of the flag and its installing a sender. -/
theorem quit_is_heard_iff (ls : List (Reconnect.Label Display Overlay.Event (Option Memory)))
    (ls' : List (Reconnect.Label Display X11Screen X11Screen)) :
    ((Reconnect.automaton layerShell).Along (StopIsHeard layerShell) { value := 0.0 } ls ↔
        (Reconnect.automaton layerShell).Along NotBlind { value := 0.0 } ls) ∧
      ((Reconnect.automaton x11).Along (StopIsHeard x11) { value := 0.0 } ls' ↔
        (Reconnect.automaton x11).Along NotBlind { value := 0.0 } ls') :=
  ⟨Reconnect.along_stopIsHeard_iff stops_layerShell rfl,
    Reconnect.along_stopIsHeard_iff stops_x11 rfl⟩

/-- A quit before the thread has tested the flag is heard. -/
theorem quit_is_heard_iff_early :
    (Reconnect.automaton layerShell).Along (StopIsHeard layerShell) { value := 0.0 }
        [.setFlag, .sendStop, .test] ∧
      (Reconnect.automaton x11).Along (StopIsHeard x11) { value := 0.0 }
        [.setFlag, .sendStop, .test] := by
  have hboth := quit_is_heard_iff [.setFlag, .sendStop, .test] [.setFlag, .sendStop, .test]
  constructor
  · refine hboth.1.mpr (.cons (fun h => by contradiction) rfl ?_)
    exact .cons (fun _ _ => rfl) rfl (.cons (fun h => by contradiction) rfl trivial)
  · refine hboth.2.mpr (.cons (fun h => by contradiction) rfl ?_)
    exact .cons (fun _ _ => rfl) rfl (.cons (fun h => by contradiction) rfl trivial)

/-- `quit` runs while the thread connects: the thread enters its loop and waits
for a command that nobody will send. -/
theorem quit_while_connecting_is_lost :
    (∃ s, (Reconnect.automaton layerShell).run { value := 0.0 }
        [.test, .setFlag, .sendStop, .connect, .install, .read, .apply (some fun _ => 0)] = some s ∧
      s.stopped = true ∧ s.queue = [] ∧ ¬ StopHeard layerShell s) ∧
    ∃ s, (Reconnect.automaton x11).run { value := 0.0 }
        [.test, .setFlag, .sendStop, .connect, .install, .read,
          .apply { root := (1920, 1080), output := none }] = some s ∧
      s.stopped = true ∧ s.queue = [] ∧ ¬ StopHeard x11 s := by
  constructor
  · obtain ⟨s, hrun, hstopped, hqueue, hphase⟩ :
        ∃ s, (Reconnect.automaton layerShell).run { value := 0.0 }
          [.test, .setFlag, .sendStop, .connect, .install, .read, .apply (some fun _ => 0)] = some s ∧
        s.stopped = true ∧ s.queue = [] ∧ s.phase = .loop (Overlay.restore (some fun _ => 0) 0.0) :=
      ⟨_, rfl, rfl, rfl, rfl⟩
    refine ⟨s, hrun, hstopped, hqueue, ?_⟩
    simp [StopHeard, hphase, hqueue, layerShell]
  · obtain ⟨s, hrun, hstopped, hqueue, hphase⟩ :
        ∃ s, (Reconnect.automaton x11).run { value := 0.0 }
          [.test, .setFlag, .sendStop, .connect, .install, .read,
            .apply { root := (1920, 1080), output := none }] = some s ∧
        s.stopped = true ∧ s.queue = [] ∧
        s.phase = .loop (X11Window.restore { root := (1920, 1080), output := none } 0.0) :=
      ⟨_, rfl, rfl, rfl, rfl⟩
    refine ⟨s, hrun, hstopped, hqueue, ?_⟩
    simp [StopHeard, hphase, hqueue, x11]

end GamescopeIdle
