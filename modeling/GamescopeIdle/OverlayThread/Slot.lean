import GamescopeIdle.Lib.Reconnect.Runs
import GamescopeIdle.OverlayThread

/-!
# GamescopeIdle.OverlayThread.Slot

The X11 backend and the external-overlay slot, which gamescope gives to the
top-most window that asks for it.

What the window should be is what `run` restores after a reconnect
(`X11Window.wanted`): raised and painted while the shared alpha is above zero, and
otherwise out of the way.  The command loop agrees on `hide` and on every alpha
above zero, but executes a `Show` of any other alpha by raising a transparent
window.  So the slot is right in all runs exactly for the requests that never
show such an alpha (`slot_is_wanted_iff`): on those the thread runs like one that
would hide instead (`x11Hiding`).
-/

namespace GamescopeIdle

open Reconnect (Whole Faithful Stops AgreeOn requests)

namespace X11Window

/-! ## the slot -/

/-- What a window is to gamescope. -/
structure Slot where
  /-- Mapped, and last stacked above: it has the slot. -/
  held : Bool
  /-- Never mapped, or last stacked below: it leaves the slot to others. -/
  yielded : Bool
  /-- The alpha last painted, if it is mapped. -/
  painted : Float

/-- What the window is. -/
def slot (w : X11Window) : Slot where
  held := w.mapped && w.stack == some .above
  yielded := !w.mapped || w.stack == some .below
  painted := if w.mapped then w.painted else 0.0

/-- What the window should be for a shared alpha. -/
def wanted (alpha : Float) : Slot :=
  if 0.0 < alpha then { held := true, yielded := false, painted := F64.clamp alpha 0.0 1.0 }
  else { held := false, yielded := true, painted := 0.0 }

theorem slot_showAlpha {alpha : Float} (h : 0.0 < alpha) (w : X11Window) :
    (w.showAlpha alpha).slot = wanted alpha := by
  rw [wanted, if_pos h]
  rfl

theorem slot_hide (w : X11Window) {alpha : Float} (h : ¬ 0.0 < alpha) : w.hide.slot = wanted alpha := by
  rw [wanted, if_neg h]
  unfold hide
  cases hmapped : w.mapped with
  | false => simp [slot, hmapped]
  | true =>
      have hzero : F64.clamp 0.0 0.0 1.0 = 0.0 := by decide
      simp [slot, paint, hmapped, hzero]

/-- A reconnect restores what is wanted, for every alpha. -/
theorem slot_restore (screen : X11Screen) (desired : Float) :
    (restore screen desired).slot = wanted desired := by
  unfold restore
  split
  · next hpos => exact slot_showAlpha hpos _
  · next hpos =>
      rw [wanted, if_neg hpos]
      rfl

/-- The window has the slot exactly while something is to be shown; otherwise it
was never mapped, or is transparent and stacked below. -/
structure SlotRight (alpha : Float) (w : X11Window) : Prop where
  held : (w.mapped = true ∧ w.stack = some .above) ↔ 0.0 < alpha
  yielded : ¬ 0.0 < alpha → w.mapped = false ∨ (w.painted = 0.0 ∧ w.stack = some .below)
  painted : 0.0 < alpha → w.painted = F64.clamp alpha 0.0 1.0

theorem slotRight_of_eq {w : X11Window} {alpha : Float} (h : w.slot = wanted alpha) :
    SlotRight alpha w := by
  by_cases hpos : 0.0 < alpha
  · rw [wanted, if_pos hpos] at h
    obtain ⟨hheld, -, hpainted⟩ := Slot.mk.inj h
    obtain ⟨hmapped, hstack⟩ := Bool.and_eq_true_iff.mp hheld
    rw [if_pos hmapped] at hpainted
    have habove : w.stack = some .above := beq_iff_eq.mp hstack
    exact ⟨iff_of_true ⟨hmapped, habove⟩ hpos, fun hno => absurd hpos hno, fun _ => hpainted⟩
  · rw [wanted, if_neg hpos] at h
    obtain ⟨hheld, hyielded, hpainted⟩ := Slot.mk.inj h
    have hno : ¬ (w.mapped = true ∧ w.stack = some .above) := by
      intro hboth
      rw [hboth.1, hboth.2] at hheld
      contradiction
    refine ⟨iff_of_false hno hpos, ?_, fun h => absurd h hpos⟩
    intro _
    cases hmapped : w.mapped with
    | false => exact .inl rfl
    | true =>
        rw [if_pos hmapped] at hpainted
        rw [hmapped] at hyielded
        exact .inr ⟨hpainted, beq_iff_eq.mp hyielded⟩

/-- Showing an alpha that is not above zero takes the slot all the same. -/
theorem not_slotRight_showAlpha {alpha : Float} (h : ¬ 0.0 < alpha) (w : X11Window) :
    ¬ SlotRight alpha (w.showAlpha alpha) := by
  intro hright
  exact h (hright.held.mp ⟨rfl, rfl⟩)

end X11Window

/-! ## a thread that hides -/

/-- The X11 thread, but for a `Show` of an alpha that is not above zero, which it
executes as a `Hide`. -/
def x11Hiding : Worker Display Float X11Window X11Screen X11Screen :=
  { x11 with
    exec := fun
      | .request (.showAlpha alpha) =>
          if 0.0 < alpha then X11Window.onCmd (.showAlpha alpha) else X11Window.onCmd .hide
      | .request .hide => X11Window.onCmd .hide
      | .stop => X11Window.onCmd .quit }

theorem faithful_x11Hiding : Faithful x11Hiding X11Window.slot X11Window.wanted where
  restore screen desired := X11Window.slot_restore screen desired
  request r w _ := by
    cases r with
    | showAlpha alpha =>
        by_cases hpos : 0.0 < alpha
        · simp only [x11Hiding, if_pos hpos]
          exact X11Window.slot_showAlpha hpos w
        · simp only [x11Hiding, if_neg hpos]
          exact X11Window.slot_hide w hpos
    | hide => exact X11Window.slot_hide w F64.not_zero_lt_zero
  external _ _ := rfl

theorem stops_x11Hiding : Stops x11Hiding where
  request r w := by
    cases r with
    | showAlpha alpha =>
        by_cases hpos : 0.0 < alpha
        · simp only [x11Hiding, if_pos hpos]
          rfl
        · simp only [x11Hiding, if_neg hpos]
          exact X11Window.destroyed_hide w
    | hide => exact X11Window.destroyed_hide w
  stop _ := rfl
  external _ _ := rfl

/-- A request whose alpha, if it has one, is above zero. -/
def Display.Visible : Display → Prop
  | .showAlpha alpha => 0.0 < alpha
  | .hide => True

theorem agreeOn_x11Hiding : AgreeOn Display.Visible x11 x11Hiding where
  initial := rfl
  write := rfl
  restore := rfl
  external := rfl
  exiting := rfl
  drains := rfl
  stop := rfl
  request r hr := by
    cases r with
    | showAlpha alpha =>
        have hpos : 0.0 < alpha := hr
        funext w
        simp only [x11, x11Hiding, if_pos hpos]
    | hide => rfl

/-! ## the slot in whole runs -/

/-- Whenever nothing is on its way, the window is as the shared alpha wants it. -/
def SlotAlwaysRight (rs : List Display) : Prop :=
  ∀ ls s w, (Reconnect.automaton x11).run { value := 0.0 } ls = some s → requests ls <+: rs →
    Whole s → s.phase = .loop w → w.destroyed = false → s.queue = [] →
      X11Window.SlotRight s.value w

/-- With visible requests only, the window is right. -/
theorem slotAlwaysRight_of_visible {rs : List Display} (hrs : ∀ r ∈ rs, r.Visible) :
    SlotAlwaysRight rs := by
  intro ls s w hrun hpre hwhole hphase hdestroyed hqueue
  have hls : ∀ r ∈ requests ls, r.Visible := fun r hr => hrs r (hpre.subset hr)
  have hnone : Reconnect.OnlyOk Display.Visible
      ({ value := 0.0 } : Reconnect.System Display Float X11Window) :=
    ⟨fun _ hr => by contradiction, fun _ hr => by contradiction⟩
  have hsame : (Reconnect.automaton x11Hiding).run { value := 0.0 } ls = some s := by
    rw [← Reconnect.run_congr agreeOn_x11Hiding hnone hls]
    exact hrun
  have hreach : (Reconnect.automaton x11Hiding).Reachable s := ⟨_, ls, rfl, hsame⟩
  have htracks := Reconnect.tracks_of_reachable faithful_x11Hiding stops_x11Hiding hreach
  have hslot := Reconnect.view_eq_want faithful_x11Hiding stops_x11Hiding hreach hwhole hphase
    hdestroyed hqueue
  rw [← htracks.value] at hslot
  exact X11Window.slotRight_of_eq hslot

/-- The steps in which the thread connects. -/
def connecting (screen : X11Screen) : List (Reconnect.Label Display X11Screen X11Screen) :=
  [.test, .connect, .install, .read, .apply screen]

theorem run_connecting (screen : X11Screen) :
    ∃ s, (Reconnect.automaton x11).run { value := 0.0 } (connecting screen) = some s ∧
      Reconnect.Attentive x11 s (X11Window.restore screen 0.0) :=
  ⟨_, rfl, ⟨rfl, X11Window.destroyed_restore screen 0.0, rfl, rfl, rfl⟩⟩

/-- A request with an alpha not above zero can be executed by the command loop. -/
theorem visible_of_slotAlwaysRight {rs : List Display} (h : SlotAlwaysRight rs) :
    ∀ r ∈ rs, r.Visible := by
  intro r hr
  cases r with
  | hide => trivial
  | showAlpha alpha =>
      by_contra hpos
      obtain ⟨before, after, hrs⟩ := List.append_of_mem hr
      let screen : X11Screen := { root := (1920, 1080), output := none }
      obtain ⟨s₀, hconnect, hattentive⟩ := run_connecting screen
      obtain ⟨s, w, hserved, hs⟩ := Reconnect.run_serves stops_x11 hattentive before
      obtain ⟨t, hshown, ht, hvalue⟩ := Reconnect.run_serve stops_x11 hs (.showAlpha alpha)
      have hrun : (Reconnect.automaton x11).run { value := 0.0 }
          (connecting screen ++ (before.flatMap Reconnect.serve ++ Reconnect.serve (.showAlpha alpha))) =
          some t := by
        rw [Automaton.run_append, hconnect, Option.bind_some, Automaton.run_append, hserved,
          Option.bind_some]
        exact hshown
      have hpre : requests (connecting screen ++
          (before.flatMap Reconnect.serve ++ Reconnect.serve (.showAlpha alpha))) <+: rs := by
        refine ⟨after, ?_⟩
        rw [Reconnect.requests_append, Reconnect.requests_append, Reconnect.requests_serves,
          Reconnect.requests_serve, hrs]
        simp [connecting, requests]
      have hwhole : Whole t := by
        intro r hr
        rw [ht.caller] at hr
        contradiction
      have hright := h _ t _ hrun hpre hwhole ht.phase ht.exiting ht.queue
      rw [hvalue] at hright
      exact X11Window.not_slotRight_showAlpha hpos w hright

/-- **The slot is held exactly while something is to be shown**, in all runs with
given requests and any reconnects, exactly if none of them shows an alpha that is
not above zero. -/
theorem slot_is_wanted_iff (rs : List Display) :
    SlotAlwaysRight rs ↔ ∀ r ∈ rs, r.Visible :=
  ⟨visible_of_slotAlwaysRight, slotAlwaysRight_of_visible⟩

/-- A dim warning with alpha zero raises a transparent window, while a reconnect
would leave the window unmapped for the same shared alpha. -/
theorem zero_alpha_holds_slot :
    ¬ SlotAlwaysRight [.showAlpha 0.0] ∧
      ∀ screen, (X11Window.restore screen 0.0).mapped = false := by
  constructor
  · intro h
    have hright := h
      [.test, .connect, .install, .read, .apply { root := (1920, 1080), output := none },
        .write (.showAlpha 0.0), .send, .recv]
      _ _ rfl (List.prefix_refl _) (fun r hr => by contradiction) rfl rfl rfl
    exact X11Window.not_slotRight_showAlpha F64.not_zero_lt_zero _ hright
  · intro screen
    rfl

end GamescopeIdle
