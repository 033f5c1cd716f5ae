import GamescopeIdle.Lib.F64

/-!
# GamescopeIdle.OverlayX11

The external-overlay window of one X connection (`overlay_x11.rs`): what `run`
sets up, and what `show`, `paint` and the command loop do to the window.
-/

namespace GamescopeIdle

/-- `Cmd` of the X11 backend. -/
inductive X11Cmd where
  | showAlpha (alpha : Float)
  | hide
  | quit

/-- `StackMode`. -/
inductive StackMode where
  | above
  | below
deriving DecidableEq, Repr

/-- The screen, as `show` reads it: the geometry of the root window and what
`output_size` finds. -/
structure X11Screen where
  root : UInt16 × UInt16
  output : Option (UInt16 × UInt16)

/-- The window. -/
structure X11Window where
  /-- What `show` would read now. -/
  screen : X11Screen
  size : UInt32 × UInt32
  mapped : Bool
  /-- How it was last stacked. -/
  stack : Option StackMode
  /-- The clamped alpha last painted. -/
  painted : Float
  /-- The background pixel, which fills the whole window. -/
  pixel : UInt32
  destroyed : Bool

namespace X11Window

/-- The window `run` creates: unmapped, with a transparent background. -/
def new (screen : X11Screen) : X11Window :=
  { screen := screen, size := (screen.root.1.toUInt32, screen.root.2.toUInt32), mapped := false
    stack := none, painted := 0.0, pixel := 0, destroyed := false }

/-- Premultiplied black: a clamped alpha rounds to the same number as `u32` and as `u8`. -/
def blackPixel (alpha : Float) : UInt32 := (F64.alphaByte alpha).toUInt32 <<< 24

/-- `paint`. -/
def paint (alpha : Float) (w : X11Window) : X11Window :=
  let alpha := F64.clamp alpha 0.0 1.0
  { w with painted := alpha, pixel := blackPixel alpha }

/-- `show`. -/
def showAlpha (alpha : Float) (w : X11Window) : X11Window :=
  let (ow, oh) := w.screen.output.getD (0, 0)
  let width := max ow w.screen.root.1
  let height := max oh w.screen.root.2
  let w := { w with size := (width.toUInt32, height.toUInt32), mapped := true }
  { w with stack := some .above }.paint alpha

/-- `Cmd::Hide`: repaint transparent, and yield the slot. -/
def hide (w : X11Window) : X11Window :=
  if w.mapped then { w.paint 0.0 with stack := some .below } else w

/-- One command of the loop. -/
def onCmd (cmd : X11Cmd) (w : X11Window) : X11Window :=
  match cmd with
  | .showAlpha alpha => w.showAlpha alpha
  | .hide => w.hide
  | .quit => { w with destroyed := true }

/-- The window when `run` enters its loop, with the alpha that was wanted when
it read it. -/
def restore (screen : X11Screen) (desired : Float) : X11Window :=
  if 0.0 < desired then (new screen).showAlpha desired else new screen

/-- The game, or the output, changes its resolution. -/
def onScreen (screen : X11Screen) (w : X11Window) : X11Window := { w with screen := screen }

/-! ## what is shown -/

/-- The opacity applied on the connection; an unmapped window is opacity zero. -/
def applied (w : X11Window) : Float := if w.mapped then F64.opacity w.painted else 0.0

@[simp] theorem applied_showAlpha (alpha : Float) (w : X11Window) :
    (w.showAlpha alpha).applied = F64.opacity alpha := by
  simp [applied, showAlpha, paint]

@[simp] theorem applied_hide (w : X11Window) : w.hide.applied = 0.0 := by
  unfold hide
  split
  · next hmapped =>
      have hzero : F64.opacity (F64.clamp 0.0 0.0 1.0) = 0.0 := by
        rw [F64.opacity_clamp, F64.opacity_zero]
      simp [applied, paint, hmapped, hzero]
  · next hmapped => simp [applied, hmapped]

theorem applied_restore (screen : X11Screen) (desired : Float) :
    (restore screen desired).applied = F64.opacity desired := by
  unfold restore
  split
  · rw [applied_showAlpha]
  · next hpos => simp [applied, new, F64.opacity_of_not_lt hpos]

@[simp] theorem destroyed_restore (screen : X11Screen) (desired : Float) :
    (restore screen desired).destroyed = false := by
  unfold restore
  split <;> rfl

theorem destroyed_hide (w : X11Window) : w.hide.destroyed = w.destroyed := by
  unfold hide
  split <;> rfl

/-- The window shows this opacity, and is filled with its pixel. -/
structure Shows (w : X11Window) (opacity : Float) : Prop where
  applied : w.applied = opacity
  pixel : w.pixel = blackPixel opacity

/-- The pixel is that of the opacity applied. -/
abbrev Filled (w : X11Window) : Prop := w.Shows w.applied

theorem Filled.shows {w : X11Window} (h : w.Filled) {opacity : Float} (ha : w.applied = opacity) :
    w.Shows opacity := ha ▸ h

theorem blackPixel_clamp (alpha : Float) :
    blackPixel (F64.clamp alpha 0.0 1.0) = blackPixel (F64.opacity alpha) := by
  rw [blackPixel, ← F64.alphaByte_opacity (F64.clamp_clamp alpha), F64.opacity_clamp, ← blackPixel]

theorem filled_showAlpha (alpha : Float) (w : X11Window) : (w.showAlpha alpha).Filled := by
  refine ⟨rfl, ?_⟩
  rw [applied_showAlpha, ← blackPixel_clamp]
  rfl

theorem filled_hide {w : X11Window} (h : w.Filled) : w.hide.Filled := by
  refine ⟨rfl, ?_⟩
  rw [applied_hide]
  unfold hide
  split
  · exact (blackPixel_clamp 0.0).trans (congrArg blackPixel F64.opacity_zero)
  · next hmapped =>
      have hunmapped : w.applied = 0.0 := if_neg hmapped
      exact hunmapped ▸ h.pixel

theorem filled_restore (screen : X11Screen) (desired : Float) : (restore screen desired).Filled := by
  unfold restore
  split
  · exact filled_showAlpha desired _
  · have hzero : (0 : UInt32) = blackPixel 0.0 := by decide
    exact ⟨rfl, hzero⟩

theorem filled_onScreen {w : X11Window} (screen : X11Screen) (h : w.Filled) :
    (w.onScreen screen).Filled := ⟨rfl, h.pixel⟩

end X11Window

end GamescopeIdle
