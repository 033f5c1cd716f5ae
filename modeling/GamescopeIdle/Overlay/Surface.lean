import GamescopeIdle.Lib.Automaton
import GamescopeIdle.Lib.I32
import GamescopeIdle.Overlay

/-!
# GamescopeIdle.Overlay.Surface

The life of the layer surfaces of one Wayland connection, over all sequences of
`Show` commands and compositor events.

* What is on screen is current, and the surface protocol is obeyed
  (`surface_shows_current_alpha`): the frame last committed to the surface has its
  size and alpha, no buffer precedes the first `configure`, and surfaces are
  created only when one is missing and wanted.
* A wanted overlay keeps its surface exactly in the runs in which the compositor
  does not close it while it is wanted (`wanted_overlay_keeps_surface`): `closed`
  drops the surface without a look at the alpha.
-/

namespace GamescopeIdle

namespace Overlay

/-! ## buffers -/

/-- The length of the buffer fits in `i32`. -/
def Fits (size : UInt32 × UInt32) : Prop := 4 * size.1.toNat * size.2.toNat < 2147483648

instance (size : UInt32 × UInt32) : Decidable (Fits size) := inferInstanceAs (Decidable (_ < _))

/-- Both components of the size are non-zero, so `draw` does not return early. -/
def Sized (size : UInt32 × UInt32) : Prop := size.1 ≠ 0 ∧ size.2 ≠ 0

instance (size : UInt32 × UInt32) : Decidable (Sized size) := inferInstanceAs (Decidable (_ ∧ _))

theorem not_sized_zero : ¬ Sized (0, 0) := by
  intro h
  exact h.1 rfl

/-- How many pixels a surface of this size has. -/
def pixels (size : UInt32 × UInt32) : Nat := size.1.toNat * size.2.toNat

theorem pixels_pos {size : UInt32 × UInt32} (h : Sized size) : 0 < pixels size :=
  Nat.mul_pos (UInt32.pos_iff_ne_zero.mpr h.1) (UInt32.pos_iff_ne_zero.mpr h.2)

/-- A length that fits is computed without overflow. -/
theorem toInt_bufferLen {size : UInt32 × UInt32} (hfits : Fits size) (hsized : Sized size) :
    (bufferLen size).toInt = 4 * (pixels size : Nat) := by
  have hfits : 4 * (size.1.toNat * size.2.toNat) < 2147483648 := by
    rw [← Nat.mul_assoc]
    exact hfits
  have hw : 0 < size.1.toNat := UInt32.pos_iff_ne_zero.mpr hsized.1
  have hh : 0 < size.2.toNat := UInt32.pos_iff_ne_zero.mpr hsized.2
  have hwle : size.1.toNat ≤ size.1.toNat * size.2.toNat := Nat.le_mul_of_pos_right _ hh
  have hhle : size.2.toNat ≤ size.1.toNat * size.2.toNat := Nat.le_mul_of_pos_left _ hw
  have hfour : (4 : Int32).toInt = 4 := rfl
  have hwInt : size.1.toInt32.toInt = size.1.toNat := I32.toInt_toInt32 (by omega)
  have hhInt : size.2.toInt32.toInt = size.2.toNat := I32.toInt_toInt32 (by omega)
  have hstride : (size.1.toInt32 * 4).toInt = size.1.toNat * 4 := by
    rw [I32.toInt_mul, hwInt, hfour]
    rw [hwInt, hfour]
    exact ⟨by omega, by omega⟩
  have hlen : (size.1.toNat : Int) * 4 * size.2.toNat = 4 * (size.1.toNat * size.2.toNat : Nat) := by
    rw [Int.mul_comm (size.1.toNat : Int) 4, Int.mul_assoc, Int.natCast_mul]
  have hrange : I32.InRange ((size.1.toInt32 * 4).toInt * size.2.toInt32.toInt) := by
    rw [hstride, hhInt, hlen]
    exact ⟨by omega, by omega⟩
  unfold bufferLen pixels
  rw [I32.toInt_mul hrange, hstride, hhInt, hlen]

/-- The canvas of a buffer that fits has four bytes for each pixel. -/
theorem toNat_bufferLen {size : UInt32 × UInt32} (hfits : Fits size) (hsized : Sized size) :
    (bufferLen size).toNatClampNeg = 4 * pixels size := by
  rw [Int32.toNatClampNeg, toInt_bufferLen hfits hsized]
  rfl

/-- Whatever the size, the canvas holds whole pixels. -/
theorem four_dvd_bufferLen (size : UInt32 × UInt32) : 4 ∣ (bufferLen size).toNatClampNeg := by
  have hprod : bufferLen size = 4 * (size.1.toInt32 * size.2.toInt32) := by
    unfold bufferLen
    rw [Int32.mul_comm size.1.toInt32 4, Int32.mul_assoc]
  have hmul := Int32.toInt_mul 4 (size.1.toInt32 * size.2.toInt32)
  have hfour : (4 : Int32).toInt = 4 := rfl
  rw [← hprod, hfour] at hmul
  obtain ⟨k, hk⟩ := Int.dvd_bmod_sub_self
    (x := 4 * (size.1.toInt32 * size.2.toInt32).toInt) (m := 2 ^ 32)
  rw [← hmul] at hk
  unfold Int32.toNatClampNeg
  omega

/-- A canvas of whole pixels is filled completely. -/
theorem fillCanvas_eq {n : Nat} {a : UInt8} {canvas : List UInt8} (h : canvas.length = 4 * n) :
    fillCanvas a canvas = blackPixels n a := by
  induction n generalizing canvas with
  | zero =>
      have hnil : canvas = [] := List.length_eq_zero_iff.mp h
      rw [hnil]
      rfl
  | succ n ih =>
      match canvas, h with
      | _ :: _ :: _ :: _ :: rest, h =>
          have hrest : rest.length = 4 * n := by
            simp only [List.length_cons] at h
            omega
          rw [fillCanvas, ih hrest]
          rfl

theorem length_blackPixels (n : Nat) (a : UInt8) : (blackPixels n a).length = 4 * n := by
  simp [blackPixels, Nat.mul_comm]

/-- Black pixels are read back as what they are. -/
theorem canvasAlpha_blackPixels {n : Nat} (hn : 0 < n) (a : UInt8) :
    canvasAlpha (blackPixels n a) = some a := by
  cases n with
  | zero => contradiction
  | succ n =>
      have hfirst : (blackPixels (n + 1) a).getD 3 0 = a := rfl
      have hcount : (blackPixels (n + 1) a).length / 4 = n + 1 := by
        rw [length_blackPixels]
        omega
      rw [canvasAlpha, hfirst, hcount, if_pos rfl]

/-! ## the connection -/

/-- The overlay of one connection. -/
structure Connection where
  overlay : Overlay
  /-- The surfaces that a `configure` was for (history). -/
  configured : List Nat := []

/-- A command, or an event of the connection. -/
inductive Dispatch where
  | showAlpha (alpha : Float)
  | event (e : Event)
  /-- `output_destroyed`, which does nothing. -/
  | outputDestroyed

namespace Connection

/-- The surface that a dispatch configures. -/
def configures (c : Connection) : Dispatch → Option Nat
  | .event (.configure _) => c.overlay.layer
  | _ => none

/-- One dispatch of the event loop. -/
def dispatch (c : Connection) (d : Dispatch) : Connection where
  overlay :=
    match d with
    | .showAlpha alpha => c.overlay.onCmd (.showAlpha alpha)
    | .event e => c.overlay.onEvent e
    | .outputDestroyed => c.overlay
  configured := c.configured ++ (c.configures d).toList

/-- All dispatches on a connection, from what `run` builds on it for any alpha. -/
def automaton : Automaton Connection Dispatch where
  init c := ∃ shm alpha, c = { overlay := restore shm alpha }
  step c d := some (c.dispatch d)

theorem step_eq_some {c c' : Connection} {d : Dispatch} :
    automaton.step c d = some c' ↔ c.dispatch d = c' := Option.some_inj

end Connection

/-! ## a wanted overlay -/

/-- An overlay that is to be seen has a surface. -/
def HasSurface (c : Connection) : Prop := 0.0 < c.overlay.alpha → c.overlay.layer.isSome = true

/-- The compositor does not close the surface of an overlay that is to be seen. -/
def NotWithdrawn (c : Connection) : Dispatch → Prop
  | .event .closed => ¬ 0.0 < c.overlay.alpha
  | _ => True

theorem hasSurface_of_init {c : Connection} (h : Connection.automaton.init c) : HasSurface c := by
  obtain ⟨shm, alpha, rfl⟩ := h
  intro hpos
  simp only [restore] at hpos ⊢
  split at hpos
  · next halpha => simp [halpha]
  · contradiction

theorem hasSurface_setAlpha (alpha : Float) (o : Overlay)
    (hpos : 0.0 < (o.setAlpha alpha).alpha) : (o.setAlpha alpha).layer.isSome = true := by
  simp only [setAlpha] at hpos ⊢
  split at hpos
  · split at hpos
    · next hnone hshown => simp [hnone, hshown]
    · contradiction
  · next hsome =>
      rw [if_neg hsome, layer_draw]
      simpa [Option.isSome_iff_ne_none] using hsome

/-- Out of a state with a surface exactly the withdrawal of a wanted one leads to
a state without. -/
theorem keeps_hasSurface_iff {c : Connection} {d : Dispatch} (h : HasSurface c) :
    Connection.automaton.Keeps HasSurface c d ↔ NotWithdrawn c d := by
  constructor
  · intro hkeeps
    cases d with
    | event e =>
        cases e with
        | closed =>
            intro hpos
            have hsurface := hkeeps _ rfl hpos
            contradiction
        | _ => trivial
    | _ => trivial
  · intro hok c' hstep
    rw [← Connection.step_eq_some.mp hstep]
    cases d with
    | showAlpha alpha => exact hasSurface_setAlpha alpha c.overlay
    | outputDestroyed => exact h
    | event e =>
        cases e with
        | closed =>
            intro hpos
            exact absurd hpos hok
        | configure newSize =>
            intro hpos
            simp only [Connection.dispatch, onEvent, configure, alpha_draw, layer_draw] at hpos ⊢
            exact h hpos
        | output info =>
            intro hpos
            simp only [Connection.dispatch, onEvent, rememberOutput] at hpos ⊢
            split at hpos <;> exact h hpos
        | shm ok => exact h

/-- **When a wanted overlay keeps its surface**: in any run of a connection, an
overlay that is to be seen never lacks a surface exactly if the compositor never
closes the surface of an overlay that is to be seen. -/
theorem wanted_overlay_keeps_surface {c : Connection} {ds : List Dispatch}
    (hinit : Connection.automaton.init c) :
    Connection.automaton.Along (Connection.automaton.Keeps HasSurface) c ds ↔
      Connection.automaton.Along NotWithdrawn c ds :=
  Automaton.along_keeps_iff (fun _ _ _ h => keeps_hasSurface_iff h) (.init hinit)
    (hasSurface_of_init hinit)

/-- A dimmed overlay, made black and hidden again. -/
theorem wanted_overlay_keeps_surface_hidden :
    Connection.automaton.Along (Connection.automaton.Keeps HasSurface)
      { overlay := restore (some fun _ => 0) 0.5 }
      [.event (.configure (1920, 1080)), .showAlpha 1.0, .showAlpha 0.0] :=
  (wanted_overlay_keeps_surface ⟨_, 0.5, rfl⟩).mpr
    ⟨trivial, fun _ _ => ⟨trivial, fun _ _ => ⟨trivial, fun _ _ => trivial⟩⟩⟩

/-- The compositor closes the surface of a black overlay: none is left, and black
is still wanted. -/
theorem closed_overlay_lacks_surface :
    ∃ c, Connection.automaton.run { overlay := restore (some fun _ => 0) 1.0 }
        [.event (.configure (1920, 1080)), .event .closed] = some c ∧
      0.0 < c.overlay.alpha ∧ c.overlay.layer = none := by
  have hpos : (0.0 : Float) < 1.0 := F64.zero_lt_one
  refine ⟨_, rfl, ?_, rfl⟩
  simp [Connection.dispatch, onEvent, closed, configure, restore, hpos]

/-! ## what is on the wire -/

theorem lastFrame_append_frame (o : Overlay) (n : Nat) (w h : UInt32) (canvas : List UInt8) :
    ({ o with wire := o.wire ++ [.frame n w h canvas] } : Overlay).lastFrame n =
      some (w, h, canvas) := by
  simp [lastFrame, frameOn]

theorem mem_of_lastFrame {o : Overlay} {n : Nat} {w h : UInt32} {canvas : List UInt8}
    (hlast : o.lastFrame n = some (w, h, canvas)) : .frame n w h canvas ∈ o.wire := by
  obtain ⟨r, hr, hon⟩ := List.mem_filterMap.mp (List.mem_of_getLast? hlast)
  cases r with
  | create => contradiction
  | frame m w' h' canvas' =>
      simp only [frameOn, Option.ite_none_right_eq_some, Option.some.injEq, Prod.mk.injEq] at hon
      obtain ⟨rfl, rfl, rfl, rfl⟩ := hon
      exact hr

/-- A surface on which nothing has been drawn has no last frame. -/
theorem lastFrame_eq_none {o : Overlay} {n : Nat} (h : ∀ w h c, .frame n w h c ∉ o.wire) :
    o.lastFrame n = none := by
  rw [lastFrame, List.getLast?_eq_none_iff, List.filterMap_eq_nil_iff]
  intro r hr
  cases r with
  | create => rfl
  | frame m w ht c =>
      have hne : m ≠ n := by
        rintro rfl
        exact h w ht c hr
      exact if_neg hne

theorem draw_of_not_sized {o : Overlay} (h : ¬ Sized o.size) : o.draw = o := by
  have hzero : o.size.1 = 0 ∨ o.size.2 = 0 := by
    by_cases hw : o.size.1 = 0
    · exact .inl hw
    · exact .inr (Classical.byContradiction fun hh => h ⟨hw, hh⟩)
  rw [draw, if_pos hzero]

theorem draw_of_sized {o : Overlay} {n : Nat} {memory : Memory} (h : Sized o.size)
    (hlayer : o.layer = some n) (hshm : o.shm = some memory) :
    ∃ canvas : List UInt8, canvas.length = (bufferLen o.size).toNatClampNeg ∧
      o.draw = { o with
        wire := o.wire ++
          [.frame n o.size.1 o.size.2 (fillCanvas (F64.alphaByte o.alpha) canvas)] } := by
  have hzero : ¬ (o.size.1 = 0 ∨ o.size.2 = 0) := by
    intro hor
    exact hor.elim h.1 h.2
  refine ⟨(List.range (bufferLen o.size).toNatClampNeg).map memory, by simp, ?_⟩
  rw [draw, if_neg hzero]
  simp only [hlayer, hshm]

/-- What drawing adds to the wire is a frame on the present surface, which has a size. -/
theorem wire_draw (o : Overlay) :
    o.draw.wire = o.wire ∨
      ∃ n canvas, o.layer = some n ∧ Sized o.size ∧ 4 ∣ canvas.length ∧
        o.draw.wire = o.wire ++
          [.frame n o.size.1 o.size.2 (fillCanvas (F64.alphaByte o.alpha) canvas)] := by
  by_cases hsized : Sized o.size
  · cases hlayer : o.layer with
    | none =>
        left
        rw [draw, hlayer]
        split <;> rfl
    | some n =>
        cases hshm : o.shm with
        | none =>
            left
            rw [draw, hlayer, hshm]
            split <;> rfl
        | some memory =>
            obtain ⟨canvas, hlen, hdraw⟩ := draw_of_sized hsized hlayer hshm
            refine .inr ⟨n, canvas, rfl, hsized, ?_, by rw [hdraw]⟩
            rw [hlen]
            exact four_dvd_bufferLen o.size
  · exact .inl (by rw [draw_of_not_sized hsized])

/-- What an overlay needs for its surface to be drawn. -/
structure Drawable (o : Overlay) : Prop where
  shm : o.shm.isSome = true
  unsized : o.layer = none → o.size = (0, 0)
  fits : Sized o.size → Fits o.size

/-- The surface is drawn as it should look now. -/
structure Drawn (o : Overlay) : Prop extends Drawable o where
  shown : ∀ n, o.layer = some n → Sized o.size →
    o.lastFrame n =
      some (o.size.1, o.size.2, blackPixels (pixels o.size) (F64.alphaByte o.alpha))

/-- Drawing brings the surface up to date. -/
theorem drawn_draw {o : Overlay} (h : Drawable o) : Drawn o.draw := by
  have hdrawable : Drawable o.draw := by
    refine ⟨?_, ?_, ?_⟩
    · simpa using h.shm
    · simpa using h.unsized
    · simpa using h.fits
  refine { toDrawable := hdrawable, shown := ?_ }
  intro n hlayer hsized
  rw [layer_draw] at hlayer
  rw [size_draw] at hsized
  obtain ⟨memory, hmemory⟩ := Option.isSome_iff_exists.mp h.shm
  obtain ⟨canvas, hlen, hdraw⟩ := draw_of_sized hsized hlayer hmemory
  rw [toNat_bufferLen (h.fits hsized) hsized] at hlen
  rw [hdraw, lastFrame_append_frame, fillCanvas_eq hlen]

/-- A new surface has no size yet, so there is nothing to draw on it. -/
theorem drawn_createLayer {o : Overlay} (h : Drawable o) (hlayer : o.layer = none) :
    Drawn o.createLayer := by
  have hsize : o.size = (0, 0) := h.unsized hlayer
  have hunsized : ¬ Sized o.size := by
    rw [hsize]
    exact not_sized_zero
  exact { shm := h.shm, unsized := fun _ => hsize, fits := h.fits
          shown := fun _ _ hs => absurd hs hunsized }

theorem drawn_setAlpha {o : Overlay} (h : Drawable o) (alpha : Float) : Drawn (o.setAlpha alpha) := by
  have halpha : Drawable { o with alpha := F64.clamp alpha 0.0 1.0 } := ⟨h.shm, h.unsized, h.fits⟩
  cases hnone : o.layer.isNone with
  | true =>
      have hlayer : o.layer = none := Option.isNone_iff_eq_none.mp hnone
      by_cases hpos : 0.0 < F64.clamp alpha 0.0 1.0
      · simp only [setAlpha, hnone, if_true, if_pos hpos]
        exact drawn_createLayer halpha hlayer
      · simp only [setAlpha, hnone, if_true, if_neg hpos]
        have hno (n : Nat) : o.layer ≠ some n := by simp [hlayer]
        exact { toDrawable := halpha, shown := fun n hn => absurd hn (hno n) }
  | false =>
      simp only [setAlpha, hnone, Bool.false_eq_true, if_false]
      exact drawn_draw halpha

/-- A `configure` is for a surface, with a size whose buffer length fits, and buffers
stay available. -/
def Event.Benign (o : Overlay) : Event → Prop
  | .configure newSize => o.layer.isSome = true ∧ Fits (o.effectiveSize newSize)
  | .shm memory => memory.isSome = true
  | _ => True

theorem drawn_onEvent {o : Overlay} {e : Event} (h : Drawn o) (hok : e.Benign o) :
    Drawn (o.onEvent e) := by
  cases e with
  | closed =>
      exact { shm := h.shm, unsized := fun _ => rfl, fits := fun hs => absurd hs not_sized_zero
              shown := fun _ hn => by contradiction }
  | configure newSize =>
      obtain ⟨hlayer, hfits⟩ := hok
      refine drawn_draw ⟨h.shm, fun hnone => ?_, fun _ => hfits⟩
      have hnone : o.layer = none := hnone
      simp [hnone] at hlayer
  | output info =>
      show Drawn (o.rememberOutput info)
      unfold rememberOutput
      split
      · exact { shm := h.shm, unsized := h.unsized, fits := h.fits, shown := h.shown }
      · exact h
  | shm memory => exact { shm := hok, unsized := h.unsized, fits := h.fits, shown := h.shown }

theorem drawn_restore (memory : Memory) (alpha : Float) : Drawn (restore (some memory) alpha) := by
  have hnew : Drawable
      { layer := none, size := (0, 0), outputSize := none, alpha := alpha, exit := false
        shm := some memory, wire := [] } :=
    { shm := rfl, unsized := fun _ => rfl, fits := fun hs => absurd hs not_sized_zero }
  simp only [restore]
  split
  · exact drawn_createLayer hnew rfl
  · exact { toDrawable := hnew, shown := fun _ hn => by contradiction }

/-- The compositor configures the current surface, with a size whose buffer
length fits, and buffers stay available. -/
def Benign (c : Connection) : Dispatch → Prop
  | .event e => e.Benign c.overlay
  | _ => True

theorem drawn_dispatch {c : Connection} {d : Dispatch} (h : Drawn c.overlay) (hok : Benign c d) :
    Drawn (c.dispatch d).overlay := by
  cases d with
  | showAlpha alpha => exact drawn_setAlpha h.toDrawable alpha
  | event e => exact drawn_onEvent h hok
  | outputDestroyed => exact h

/-! ## what is drawn on -/

/-- A canvas for surface `n` as the overlay draws it now. -/
structure Current (o : Overlay) (n : Nat) (canvas : List UInt8) : Prop where
  layer : o.layer = some n
  sized : Sized o.size
  black : ∃ k, canvas = blackPixels k (F64.alphaByte o.alpha)

/-- A frame that drawing leaves on the wire was there before, or is as the overlay draws
it now. -/
theorem frame_of_draw {o : Overlay} {n : Nat} {w h : UInt32} {canvas : List UInt8}
    (hmem : .frame n w h canvas ∈ o.draw.wire) :
    .frame n w h canvas ∈ o.wire ∨ Current o.draw n canvas := by
  rcases wire_draw o with hsame | ⟨m, canvas', hlayer, hsized, ⟨k, hk⟩, hnew⟩
  · exact .inl (hsame ▸ hmem)
  · rw [hnew, List.mem_append] at hmem
    cases hmem with
    | inl hold => exact .inl hold
    | inr hlast =>
        obtain ⟨rfl, -, -, rfl⟩ := Wire.frame.inj (List.mem_singleton.mp hlast)
        refine .inr ⟨by rw [layer_draw, hlayer], by rwa [size_draw], k, ?_⟩
        rw [fillCanvas_eq hk, alpha_draw]

theorem frame_of_setAlpha {o : Overlay} {alpha : Float} {n : Nat} {w h : UInt32}
    {canvas : List UInt8} (hmem : .frame n w h canvas ∈ (o.setAlpha alpha).wire) :
    .frame n w h canvas ∈ o.wire ∨ Current (o.setAlpha alpha) n canvas := by
  simp only [setAlpha] at hmem ⊢
  split at hmem
  · split at hmem
    · exact .inl (by simpa [createLayer] using hmem)
    · exact .inl hmem
  · next hsome =>
      rw [if_neg hsome]
      exact frame_of_draw hmem

theorem frame_of_onEvent {o : Overlay} {e : Event} {n : Nat} {w h : UInt32}
    {canvas : List UInt8} (hmem : .frame n w h canvas ∈ (o.onEvent e).wire) :
    .frame n w h canvas ∈ o.wire ∨ Current (o.onEvent e) n canvas := by
  cases e with
  | closed | shm => exact .inl hmem
  | configure newSize => exact frame_of_draw hmem
  | output info =>
      simp only [onEvent, rememberOutput] at hmem
      split at hmem <;> exact .inl hmem

/-- A command leaves a surface its size, and gives a new one none. -/
theorem sized_of_setAlpha {o : Overlay} (h : o.layer = none → o.size = (0, 0)) {alpha : Float}
    {n : Nat} (hlayer : (o.setAlpha alpha).layer = some n) (hsized : Sized (o.setAlpha alpha).size) :
    o.layer = some n ∧ Sized o.size := by
  simp only [setAlpha] at hlayer hsized
  split at hsized
  · next hnone =>
      have hsize := h (Option.isNone_iff_eq_none.mp hnone)
      have hunsized : ¬ Sized o.size := by
        rw [hsize]
        exact not_sized_zero
      split at hsized <;> exact absurd hsized hunsized
  · next hsome =>
      rw [if_neg hsome, layer_draw] at hlayer
      rw [size_draw] at hsized
      exact ⟨hlayer, hsized⟩

/-- Only surfaces that have been configured have a size, or have ever been drawn on. -/
structure Obeyed (c : Connection) : Prop where
  ready : ∀ n, c.overlay.layer = some n → Sized c.overlay.size → n ∈ c.configured
  drawn : ∀ n w h canvas, .frame n w h canvas ∈ c.overlay.wire → n ∈ c.configured

theorem obeyed_restore (shm : Option Memory) (alpha : Float) :
    Obeyed { overlay := restore shm alpha } := by
  simp only [restore]
  split
  · exact ⟨fun n _ hs => absurd hs not_sized_zero, fun n w h canvas hmem => by simp [createLayer] at hmem⟩
  · exact ⟨fun n _ hs => absurd hs not_sized_zero, fun n w h canvas hmem => by simp at hmem⟩

theorem obeyed_dispatch {c : Connection} {d : Dispatch} (hdrawn : Drawn c.overlay) (h : Obeyed c) :
    Obeyed (c.dispatch d) := by
  have hkept : ∀ n, n ∈ c.configured → n ∈ (c.dispatch d).configured :=
    fun n hn => List.mem_append_left _ hn
  have hready : ∀ n, (c.dispatch d).overlay.layer = some n → Sized (c.dispatch d).overlay.size →
      n ∈ (c.dispatch d).configured := by
    intro n hlayer hsized
    cases d with
    | outputDestroyed => exact hkept n (h.ready n hlayer hsized)
    | showAlpha alpha =>
        obtain ⟨hlayer, hsized⟩ := sized_of_setAlpha hdrawn.unsized hlayer hsized
        exact hkept n (h.ready n hlayer hsized)
    | event e =>
        cases e with
        | closed => contradiction
        | shm memory => exact hkept n (h.ready n hlayer hsized)
        | configure newSize =>
            have hlayer : c.overlay.layer = some n := by
              simpa [Connection.dispatch, onEvent, configure] using hlayer
            simp [Connection.dispatch, Connection.configures, hlayer]
        | output info =>
            simp only [Connection.dispatch, onEvent, rememberOutput] at hlayer hsized
            split at hlayer
            · next hinfo =>
                rw [hinfo] at hsized
                exact hkept n (h.ready n hlayer hsized)
            · next hinfo =>
                rw [hinfo] at hsized
                exact hkept n (h.ready n hlayer hsized)
  have hframe : ∀ n w ht canvas, .frame n w ht canvas ∈ (c.dispatch d).overlay.wire →
      .frame n w ht canvas ∈ c.overlay.wire ∨ Current (c.dispatch d).overlay n canvas := by
    intro n w ht canvas hmem
    cases d with
    | outputDestroyed => exact .inl hmem
    | showAlpha alpha => exact frame_of_setAlpha hmem
    | event e => exact frame_of_onEvent hmem
  refine ⟨hready, fun n w ht canvas hmem => ?_⟩
  cases hframe n w ht canvas hmem with
  | inl hold => exact hkept n (h.drawn n w ht canvas hold)
  | inr hnow => exact hready n hnow.1 hnow.2

/-! ## creations -/

/-- The compositor closes the surface. -/
def Dispatch.isClosed : Dispatch → Bool
  | event .closed => true
  | _ => false

@[simp] theorem creations_createLayer (o : Overlay) :
    o.createLayer.creations = o.creations + 1 := by
  simp [createLayer, creations, isCreate]

@[simp] theorem creations_draw (o : Overlay) : o.draw.creations = o.creations := by
  rcases wire_draw o with hsame | ⟨n, canvas, -, -, -, hnew⟩
  · rw [creations, hsame, creations]
  · rw [creations, hnew]
    simp [creations, isCreate]

/-- What a dispatch does to the creations: it creates a surface where one was
missing and is to be seen, or it creates none, and only `closed` takes one away. -/
theorem creations_dispatch (c : Connection) (d : Dispatch) :
    ((c.dispatch d).overlay.creations = c.overlay.creations ∧
        (d.isClosed = true ∨ (c.dispatch d).overlay.layer = c.overlay.layer)) ∨
      ((c.dispatch d).overlay.creations = c.overlay.creations + 1 ∧ c.overlay.layer = none ∧
        (c.dispatch d).overlay.layer.isSome = true ∧ 0.0 < (c.dispatch d).overlay.alpha) := by
  cases d with
  | outputDestroyed => exact .inl ⟨rfl, .inr rfl⟩
  | event e =>
      cases e with
      | closed => exact .inl ⟨rfl, .inl rfl⟩
      | configure newSize =>
          have hcreations : (c.overlay.configure newSize).creations = c.overlay.creations :=
            creations_draw _
          have hlayer : (c.overlay.configure newSize).layer = c.overlay.layer := layer_draw _
          exact .inl ⟨hcreations, .inr hlayer⟩
      | output info =>
          simp only [Connection.dispatch, onEvent, rememberOutput]
          split <;> exact .inl ⟨rfl, .inr rfl⟩
      | shm ok => exact .inl ⟨rfl, .inr rfl⟩
  | showAlpha alpha =>
      have hset : (c.dispatch (.showAlpha alpha)).overlay = c.overlay.setAlpha alpha := rfl
      rw [hset]
      cases hnone : c.overlay.layer.isNone with
      | true =>
          have hlayer : c.overlay.layer = none := Option.isNone_iff_eq_none.mp hnone
          by_cases hpos : 0.0 < F64.clamp alpha 0.0 1.0
          · simp only [setAlpha, hnone, if_true, if_pos hpos, creations_createLayer]
            exact .inr ⟨rfl, hlayer, rfl, hpos⟩
          · simp only [setAlpha, hnone, if_true, if_neg hpos]
            exact .inl ⟨rfl, .inr trivial⟩
      | false =>
          simp only [setAlpha, hnone, Bool.false_eq_true, if_false, creations_draw, layer_draw]
          exact .inl ⟨rfl, .inr trivial⟩

/-- The alpha is above zero only if some `Show` asked for it, or it was before. -/
theorem alpha_dispatch {c : Connection} {d : Dispatch}
    (h : 0.0 < (c.dispatch d).overlay.alpha) :
    (∃ alpha, d = .showAlpha alpha ∧ 0.0 < alpha) ∨ 0.0 < c.overlay.alpha := by
  cases d with
  | outputDestroyed => exact .inr h
  | event e =>
      cases e with
      | closed => exact .inr h
      | configure newSize =>
          have halpha : (c.overlay.configure newSize).alpha = c.overlay.alpha := alpha_draw _
          exact .inr (halpha ▸ h)
      | output info =>
          simp only [Connection.dispatch, onEvent, rememberOutput] at h
          split at h <;> exact .inr h
      | shm ok => exact .inr h
  | showAlpha alpha =>
      have hclamp : (c.dispatch (.showAlpha alpha)).overlay.alpha = F64.clamp alpha 0.0 1.0 :=
        alpha_setAlpha alpha c.overlay
      rw [hclamp, F64.zero_lt_clamp] at h
      exact .inl ⟨alpha, rfl, h⟩

/-- A surface at most, beyond those that were closed. -/
theorem creations_le_of_run {shm : Option Memory} {alpha : Float} {c : Connection} {ds : List Dispatch}
    (hrun : Connection.automaton.run { overlay := restore shm alpha } ds = some c) :
    c.overlay.creations ≤ ds.countP Dispatch.isClosed + c.overlay.layer.toList.length := by
  refine Connection.automaton.run_induction (motive := fun ds c =>
    c.overlay.creations ≤ ds.countP Dispatch.isClosed + c.overlay.layer.toList.length) ?_ ?_ hrun
  · simp only [restore]
    split
    · exact Nat.le_refl _
    · exact Nat.le_refl _
  · intro ds d c c' _ hstep ih
    rw [← Connection.step_eq_some.mp hstep, List.countP_append, List.countP_singleton]
    have hone (o : Option Nat) : o.toList.length ≤ 1 := by cases o <;> simp
    rcases creations_dispatch c d with ⟨hsame, hclosed | hlayer⟩ | ⟨hnew, hnone, hsome, -⟩
    · have hle := hone c.overlay.layer
      rw [hsame, hclosed, if_pos rfl]
      omega
    · rw [hsame, hlayer]
      omega
    · have hlen : (c.dispatch d).overlay.layer.toList.length = 1 := by
        obtain ⟨n, hn⟩ := Option.isSome_iff_exists.mp hsome
        rw [hn]
        rfl
      rw [hnone, Option.toList_none, List.length_nil] at ih
      rw [hnew, hlen]
      omega

/-- Without an alpha above zero there is never a surface. -/
theorem creations_eq_zero_of_run {shm : Option Memory} {alpha : Float} {c : Connection}
    {ds : List Dispatch} (halpha : ¬ 0.0 < alpha)
    (hrun : Connection.automaton.run { overlay := restore shm alpha } ds = some c) :
    (∀ x, .showAlpha x ∈ ds → ¬ 0.0 < x) →
      c.overlay.creations = 0 ∧ ¬ 0.0 < c.overlay.alpha := by
  refine Connection.automaton.run_induction (motive := fun ds c =>
    (∀ x, .showAlpha x ∈ ds → ¬ 0.0 < x) →
      c.overlay.creations = 0 ∧ ¬ 0.0 < c.overlay.alpha) ?_ ?_ hrun
  · intro _
    simp only [restore, if_neg halpha]
    exact ⟨rfl, halpha⟩
  · intro ds d c c' _ hstep ih hshown
    rw [← Connection.step_eq_some.mp hstep]
    obtain ⟨hzero, hhidden⟩ := ih fun x hx => hshown x (List.mem_append_left _ hx)
    have hhidden' : ¬ 0.0 < (c.dispatch d).overlay.alpha := by
      intro hpos
      cases alpha_dispatch hpos with
      | inl hshow =>
          obtain ⟨x, rfl, hx⟩ := hshow
          exact hshown x (by simp) hx
      | inr hbefore => exact hhidden hbefore
    rcases creations_dispatch c d with ⟨hsame, -⟩ | ⟨-, -, -, hpos⟩
    · exact ⟨hsame.trans hzero, hhidden'⟩
    · exact absurd hpos hhidden'

/-! ## the law of the surface -/

/-- What is on screen is current, and no buffer has preceded a `configure`. -/
structure ShowsCurrent (c : Connection) : Prop where
  /-- The last frame has the current size, and every pixel of it is black with the
  current alpha. -/
  frame : ∀ n, c.overlay.layer = some n → Sized c.overlay.size →
    c.overlay.lastFrame n =
      some (c.overlay.size.1, c.overlay.size.2,
        blackPixels (c.overlay.size.1.toNat * c.overlay.size.2.toNat)
          (F64.alphaByte c.overlay.alpha))
  configured : ∀ n w h canvas, .frame n w h canvas ∈ c.overlay.wire → n ∈ c.configured

/-- **The surface shows the current alpha**: on a connection whose buffers can be
had, whatever their memory holds, after any commands and compositor events, the frame
last committed to a surface with a size has that size, all of it black at the current
alpha; no buffer precedes a `configure`; and a surface is only created where one is
missing and the alpha is above zero, so there is at most one more than were closed. -/
theorem surface_shows_current_alpha {memory : Memory} {alpha : Float} {c : Connection}
    {ds : List Dispatch}
    (hrun : Connection.automaton.run { overlay := restore (some memory) alpha } ds = some c)
    (hok : Connection.automaton.Along Benign { overlay := restore (some memory) alpha } ds) :
    ShowsCurrent c ∧
      c.overlay.creations ≤ 1 + ds.countP Dispatch.isClosed ∧
      (¬ 0.0 < alpha → (∀ x, .showAlpha x ∈ ds → ¬ 0.0 < x) → c.overlay.creations = 0) ∧
      ∀ d, (c.dispatch d).overlay.creations ≠ c.overlay.creations →
        c.overlay.layer = none ∧ 0.0 < (c.dispatch d).overlay.alpha := by
  have hstep (s : Connection) (d : Dispatch) (t : Connection) (hs : Drawn s.overlay ∧ Obeyed s)
      (hP : Benign s d) (ht : Connection.automaton.step s d = some t) :
      Drawn t.overlay ∧ Obeyed t := by
    rw [← Connection.step_eq_some.mp ht]
    exact ⟨drawn_dispatch hs.1 hP, obeyed_dispatch hs.1 hs.2⟩
  obtain ⟨hdrawn, hobeyed⟩ : Drawn c.overlay ∧ Obeyed c :=
    hok.run_invariant (I := fun c => Drawn c.overlay ∧ Obeyed c) hstep
      ⟨drawn_restore memory alpha, obeyed_restore _ alpha⟩ hrun
  have hcount := creations_le_of_run hrun
  have hone : c.overlay.layer.toList.length ≤ 1 := by cases c.overlay.layer <;> simp
  refine ⟨⟨hdrawn.shown, hobeyed.drawn⟩, by omega, ?_, ?_⟩
  · intro halpha hshown
    exact (creations_eq_zero_of_run halpha hrun hshown).1
  · intro d hne
    rcases creations_dispatch c d with ⟨hsame, -⟩ | ⟨-, hnone, -, hpos⟩
    · exact absurd hsame hne
    · exact ⟨hnone, hpos⟩

/-- A dimmed overlay is configured to two pixels by one, over memory that held something
else, and then made black. -/
theorem surface_shows_current_alpha_black :
    ∃ c, Connection.automaton.run { overlay := restore (some fun _ => 7) 0.5 }
        [.event (.configure (2, 1)), .showAlpha 1.0] = some c ∧
      c.overlay.wire = [.create 0, .frame 0 2 1 [0, 0, 0, 128, 0, 0, 0, 128],
        .frame 0 2 1 [0, 0, 0, 255, 0, 0, 0, 255]] ∧
      ShowsCurrent c := by
  have hrun : Connection.automaton.run { overlay := restore (some fun _ => 7) 0.5 }
      [.event (.configure (2, 1)), .showAlpha 1.0] = some _ := rfl
  refine ⟨_, hrun, by decide, ?_⟩
  refine (surface_shows_current_alpha hrun ⟨?_, fun _ _ => ⟨trivial, fun _ _ => trivial⟩⟩).1
  exact ⟨by decide, by decide⟩

/-! ## the size of a configured surface -/

/-- The size of an output that a dispatch tells of. -/
def Dispatch.outputSize : Dispatch → Option (UInt32 × UInt32)
  | event (.output info) => info.bind outputSizeOf
  | _ => none

/-- The size of the output last heard of. -/
def lastOutput (ds : List Dispatch) : Option (UInt32 × UInt32) :=
  (ds.filterMap Dispatch.outputSize).getLast?

theorem lastOutput_concat (ds : List Dispatch) (d : Dispatch) :
    lastOutput (ds ++ [d]) = d.outputSize.or (lastOutput ds) := by
  cases hd : d.outputSize <;> simp [lastOutput, List.filterMap_append, hd]

theorem outputSize_dispatch (c : Connection) (d : Dispatch) :
    (c.dispatch d).overlay.outputSize = d.outputSize.or c.overlay.outputSize := by
  cases d with
  | outputDestroyed => rfl
  | showAlpha alpha => exact outputSize_setAlpha alpha c.overlay
  | event e =>
      cases e with
      | closed | shm => rfl
      | configure newSize => exact outputSize_draw _
      | output info =>
          simp only [Connection.dispatch, onEvent, rememberOutput, Dispatch.outputSize]
          cases info.bind outputSizeOf <;> rfl

/-- The overlay remembers the output last heard of. -/
theorem outputSize_of_run {shm : Option Memory} {alpha : Float} {c : Connection}
    {ds : List Dispatch}
    (hrun : Connection.automaton.run { overlay := restore shm alpha } ds = some c) :
    c.overlay.outputSize = lastOutput ds := by
  refine Connection.automaton.run_induction
    (motive := fun ds c => c.overlay.outputSize = lastOutput ds) ?_ ?_ hrun
  · exact outputSize_restore shm alpha
  · intro ds d c c' _ hstep ih
    rw [← Connection.step_eq_some.mp hstep, outputSize_dispatch, ih, lastOutput_concat]

/-- **A configured surface has a size**: the one the compositor asks for, unless a part
of it is zero; then that of the output last heard of, or else 1920x1080. -/
theorem size_of_configure {shm : Option Memory} {alpha : Float} {c : Connection}
    {ds : List Dispatch} {newSize : UInt32 × UInt32}
    (hrun : Connection.automaton.run { overlay := restore shm alpha }
      (ds ++ [.event (.configure newSize)]) = some c) :
    c.overlay.size = if Sized newSize then newSize else (lastOutput ds).getD (1920, 1080) := by
  rw [Automaton.run_append, Option.bind_eq_some_iff] at hrun
  obtain ⟨b, hb, hlast⟩ := hrun
  obtain rfl : b.dispatch (.event (.configure newSize)) = c := Option.some.inj hlast
  rw [← outputSize_of_run hb]
  exact size_draw _

end Overlay

end GamescopeIdle
