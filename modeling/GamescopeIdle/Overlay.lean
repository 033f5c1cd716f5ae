import GamescopeIdle.Lib.F64

/-!
# GamescopeIdle.Overlay

The layer-shell overlay of one Wayland connection (`Overlay` in `overlay.rs`):
its state, its two commands, and its reactions to what the compositor sends.

The requests it makes about its layer surfaces are kept in `wire`; a surface is
named by the number of surfaces created before it on the connection.  What the
compositor shows is read off the wire (`shown`): the frame last committed to the
present surface.
-/

namespace GamescopeIdle

/-- `OverlayCmd`. -/
inductive OverlayCmd where
  | showAlpha (alpha : Float)
  | quit

/-- A request about a layer surface. -/
inductive Wire where
  /-- The surface is created, anchored to all edges, and committed without a buffer. -/
  | create (surface : Nat)
  /-- A buffer with these bytes is attached, damaged and committed. -/
  | frame (surface : Nat) (width height : UInt32) (canvas : List UInt8)
deriving DecidableEq, Repr

/-- The bytes that a new buffer's memory holds. -/
abbrev Memory := Nat → UInt8

/-- `Overlay`. -/
structure Overlay where
  layer : Option Nat
  size : UInt32 × UInt32
  outputSize : Option (UInt32 × UInt32)
  alpha : Float
  exit : Bool
  /-- The memory of the buffers that the pool yields, while it yields any (set by the
  system, never by the overlay). -/
  shm : Option Memory
  wire : List Wire

/-- A mode of an output. -/
structure OutputMode where
  current : Bool
  dimensions : Int32 × Int32

/-- `OutputInfo`, as far as it is read. -/
structure OutputInfo where
  logicalSize : Option (Int32 × Int32)
  modes : List OutputMode

namespace Overlay

/-! ## drawing -/

/-- The request creates a surface. -/
def isCreate : Wire → Bool
  | .create _ => true
  | .frame _ _ _ _ => false

/-- How many surfaces have been created. -/
def creations (o : Overlay) : Nat := o.wire.countP isCreate

/-- `Overlay::create_layer`. -/
def createLayer (o : Overlay) : Overlay :=
  { o with layer := some o.creations, wire := o.wire ++ [.create o.creations] }

/-- `Overlay::effective_size`. -/
def effectiveSize (configured : UInt32 × UInt32) (o : Overlay) : UInt32 × UInt32 :=
  if configured.1 ≠ 0 ∧ configured.2 ≠ 0 then configured else o.outputSize.getD (1920, 1080)

/-- The length of the buffer `draw` asks for: `stride * h`, in `i32`. -/
def bufferLen (size : UInt32 × UInt32) : Int32 :=
  let stride := size.1.toInt32 * 4
  stride * size.2.toInt32

/-- The loop of `draw` over the pixels of the canvas; what `chunks_exact_mut(4)`
leaves over stays. -/
def fillCanvas (a : UInt8) : List UInt8 → List UInt8
  | _ :: _ :: _ :: _ :: rest => 0 :: 0 :: 0 :: a :: fillCanvas a rest
  | rest => rest

/-- `Overlay::draw`. -/
def draw (o : Overlay) : Overlay :=
  if o.size.1 = 0 ∨ o.size.2 = 0 then o
  else
    match o.layer with
    | none => o
    | some surface =>
        match o.shm with
        | none => o
        | some memory =>
            let canvas := (List.range (bufferLen o.size).toNatClampNeg).map memory
            let canvas := fillCanvas (F64.alphaByte o.alpha) canvas
            { o with wire := o.wire ++ [.frame surface o.size.1 o.size.2 canvas] }

/-! ## commands -/

/-- `Overlay::set_alpha`. -/
def setAlpha (alpha : Float) (o : Overlay) : Overlay :=
  let o := { o with alpha := F64.clamp alpha 0.0 1.0 }
  if o.layer.isNone then
    if 0.0 < o.alpha then o.createLayer else o
  else o.draw

/-- `Overlay::on_cmd`. -/
def onCmd (cmd : OverlayCmd) (o : Overlay) : Overlay :=
  match cmd with
  | .showAlpha alpha => o.setAlpha alpha
  | .quit => { o with layer := none, exit := true }

/-- The overlay that `run` builds on a new connection, with the alpha that was
wanted when it read it. -/
def restore (shm : Option Memory) (alpha : Float) : Overlay :=
  let o : Overlay :=
    { layer := none, size := (0, 0), outputSize := none, alpha := alpha, exit := false
      shm := shm, wire := [] }
  if 0.0 < o.alpha then o.createLayer else o

/-! ## events of the connection -/

/-- `LayerShellHandler::closed`. -/
def closed (o : Overlay) : Overlay := { o with layer := none, size := (0, 0) }

/-- `LayerShellHandler::configure`. -/
def configure (newSize : UInt32 × UInt32) (o : Overlay) : Overlay :=
  { o with size := o.effectiveSize newSize }.draw

/-- The size `remember_output` finds: the logical size, else the current mode's. -/
def outputSizeOf (info : OutputInfo) : Option (UInt32 × UInt32) :=
  match info.logicalSize with
  | some (w, h) => some (w.toUInt32, h.toUInt32)
  | none =>
      (info.modes.find? (·.current)).map fun m =>
        (m.dimensions.1.toUInt32, m.dimensions.2.toUInt32)

/-- `Overlay::remember_output`. -/
def rememberOutput (info : Option OutputInfo) (o : Overlay) : Overlay :=
  match info.bind outputSizeOf with
  | some size => { o with outputSize := some size }
  | none => o

/-- What may happen to the overlay between two commands. -/
inductive Event where
  | closed
  | configure (newSize : UInt32 × UInt32)
  /-- `new_output` and `update_output`. -/
  | output (info : Option OutputInfo)
  /-- Buffers become available, with this memory, or unavailable. -/
  | shm (memory : Option Memory)

/-- The reaction to an event. -/
def onEvent (e : Event) (o : Overlay) : Overlay :=
  match e with
  | .closed => o.closed
  | .configure newSize => o.configure newSize
  | .output info => o.rememberOutput info
  | .shm memory => { o with shm := memory }

/-! ## what is shown -/

/-- What a request commits to surface `n`. -/
def frameOn (n : Nat) : Wire → Option (UInt32 × UInt32 × List UInt8)
  | .create _ => none
  | .frame m w h canvas => if m = n then some (w, h, canvas) else none

/-- The frame last committed to surface `n`. -/
def lastFrame (n : Nat) (o : Overlay) : Option (UInt32 × UInt32 × List UInt8) :=
  (o.wire.filterMap (frameOn n)).getLast?

/-- `n` black pixels of this alpha, as bytes. -/
def blackPixels (n : Nat) (a : UInt8) : List UInt8 := (List.replicate n [0, 0, 0, a]).flatten

/-- The alpha byte of a canvas whose pixels are all black with the same one. -/
def canvasAlpha (canvas : List UInt8) : Option UInt8 :=
  let a := canvas.getD 3 0
  if canvas = blackPixels (canvas.length / 4) a then some a else none

/-- The alpha byte that the compositor shows all over the screen: that of the frame last
committed to the present surface.  A surface without a frame is not mapped, so without
one the byte is zero. -/
def shown (o : Overlay) : Option UInt8 :=
  match o.layer.bind fun n => o.lastFrame n with
  | some (_, _, canvas) => canvasAlpha canvas
  | none => some 0

/-- The surface has been created and has no size yet: it waits for its first
`configure`, and nothing can be drawn on it. -/
def awaitsConfigure (o : Overlay) : Bool := o.layer.isSome && (o.size.1 == 0 || o.size.2 == 0)

/-- The screen shows this opacity. -/
def Displays (o : Overlay) (opacity : Float) : Prop := o.shown = some (F64.alphaByte opacity)

/-- The screen shows this opacity, or will from the first `configure` on. -/
def Shows (o : Overlay) (opacity : Float) : Prop :=
  o.shown = some (if o.awaitsConfigure then 0 else F64.alphaByte opacity)

theorem Shows.clear {o : Overlay} (h : o.Shows 0.0) : o.shown = some 0 := by
  have hzero : F64.alphaByte 0.0 = 0 := by decide
  rw [h, hzero, ite_self]

theorem Shows.mapped {o : Overlay} {opacity : Float} (h : o.Shows opacity)
    (hmapped : o.awaitsConfigure = false) : o.Displays opacity := by
  rw [Displays, h, hmapped, if_neg Bool.false_ne_true]

/-! ## what each operation leaves alone -/

@[simp] theorem layer_createLayer (o : Overlay) : o.createLayer.layer = some o.creations := rfl

@[simp] theorem alpha_createLayer (o : Overlay) : o.createLayer.alpha = o.alpha := rfl

@[simp] theorem exit_createLayer (o : Overlay) : o.createLayer.exit = o.exit := rfl

/-- Drawing only adds to the wire. -/
theorem draw_eq (o : Overlay) : ∃ wire, o.draw = { o with wire := wire } := by
  unfold draw
  split
  · exact ⟨o.wire, rfl⟩
  · split
    · exact ⟨o.wire, rfl⟩
    · split
      · exact ⟨o.wire, rfl⟩
      · exact ⟨_, rfl⟩

@[simp] theorem layer_draw (o : Overlay) : o.draw.layer = o.layer := by
  obtain ⟨wire, h⟩ := o.draw_eq
  rw [h]

@[simp] theorem size_draw (o : Overlay) : o.draw.size = o.size := by
  obtain ⟨wire, h⟩ := o.draw_eq
  rw [h]

@[simp] theorem outputSize_draw (o : Overlay) : o.draw.outputSize = o.outputSize := by
  obtain ⟨wire, h⟩ := o.draw_eq
  rw [h]

@[simp] theorem alpha_draw (o : Overlay) : o.draw.alpha = o.alpha := by
  obtain ⟨wire, h⟩ := o.draw_eq
  rw [h]

@[simp] theorem exit_draw (o : Overlay) : o.draw.exit = o.exit := by
  obtain ⟨wire, h⟩ := o.draw_eq
  rw [h]

@[simp] theorem shm_draw (o : Overlay) : o.draw.shm = o.shm := by
  obtain ⟨wire, h⟩ := o.draw_eq
  rw [h]

theorem alpha_setAlpha (alpha : Float) (o : Overlay) :
    (o.setAlpha alpha).alpha = F64.clamp alpha 0.0 1.0 := by
  simp only [setAlpha]
  split
  · split <;> simp
  · simp

theorem exit_setAlpha (alpha : Float) (o : Overlay) : (o.setAlpha alpha).exit = o.exit := by
  simp only [setAlpha]
  split
  · split <;> simp
  · simp

theorem outputSize_setAlpha (alpha : Float) (o : Overlay) :
    (o.setAlpha alpha).outputSize = o.outputSize := by
  simp only [setAlpha]
  split
  · split <;> rfl
  · simp

@[simp] theorem alpha_restore (shm : Option Memory) (alpha : Float) :
    (restore shm alpha).alpha = alpha := by
  simp only [restore]
  split <;> rfl

@[simp] theorem outputSize_restore (shm : Option Memory) (alpha : Float) :
    (restore shm alpha).outputSize = none := by
  simp only [restore]
  split <;> rfl

@[simp] theorem exit_restore (shm : Option Memory) (alpha : Float) :
    (restore shm alpha).exit = false := by
  simp only [restore]
  split <;> rfl

/-- No event changes the alpha. -/
theorem alpha_onEvent (e : Event) (o : Overlay) : (o.onEvent e).alpha = o.alpha := by
  cases e with
  | closed | shm => rfl
  | configure newSize => simp [onEvent, configure]
  | output info =>
      simp only [onEvent, rememberOutput]
      split <;> rfl

theorem exit_onEvent (e : Event) (o : Overlay) : (o.onEvent e).exit = o.exit := by
  cases e with
  | closed | shm => rfl
  | configure newSize => simp [onEvent, configure]
  | output info =>
      simp only [onEvent, rememberOutput]
      split <;> rfl

end Overlay

end GamescopeIdle
