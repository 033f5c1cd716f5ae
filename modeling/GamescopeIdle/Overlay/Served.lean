import GamescopeIdle.Overlay.Surface

/-!
# GamescopeIdle.Overlay.Served

What is on the screen of a connection that is served: the compositor leaves the surface
in place and configures no other, sizes are those of buffers that fit, and buffers can
be had.

On such a connection the screen shows the alpha of the overlay, byte for byte on the
wire, but for the time in which the surface waits for its first `configure`
(`shows_of_served`).
-/

namespace GamescopeIdle

namespace Overlay

/-! ## a served connection -/

/-- A size that a surface can have, with a buffer that fits. -/
def Usable (size : UInt32 × UInt32) : Prop := Sized size ∧ Fits size

instance (size : UInt32 × UInt32) : Decidable (Usable size) := inferInstanceAs (Decidable (_ ∧ _))

/-- The surface stays, the buffer of the size asked for fits, an output has a usable
size, and buffers can be had. -/
def Event.served : Event → Bool
  | closed => false
  | configure newSize => decide (Fits newSize)
  | output info => (info.bind outputSizeOf).all fun size => decide (Usable size)
  | shm memory => memory.isSome

/-- An event of a connection that is served. -/
abbrev ServedEvent := { e : Event // e.served = true }

/-- The compositor asks for a size. -/
def Event.isConfigure : Event → Bool
  | configure _ => true
  | _ => false

/-- What the compositor owes a surface that has been created. -/
def Owed (e : ServedEvent) : Prop := e.1.isConfigure = true

/-- The reaction to an event; without a surface there is none that is configured. -/
def onServed (e : ServedEvent) (o : Overlay) : Overlay :=
  if e.1.isConfigure && o.layer.isNone then o else o.onEvent e.1

theorem alpha_onServed (e : ServedEvent) (o : Overlay) : (o.onServed e).alpha = o.alpha := by
  unfold onServed
  split
  · rfl
  · exact alpha_onEvent e.1 o

theorem exit_onServed (e : ServedEvent) (o : Overlay) : (o.onServed e).exit = o.exit := by
  unfold onServed
  split
  · rfl
  · exact exit_onEvent e.1 o

/-! ## what is kept -/

/-- The overlay of a served connection: it is drawn as it should look, it has a surface if
it is to be seen, and a surface that has no size yet has not been drawn on. -/
structure Served (o : Overlay) : Prop extends Drawn o where
  clamped : F64.clamp o.alpha 0.0 1.0 = o.alpha
  wanted : 0.0 < o.alpha → o.layer.isSome = true
  output : ∀ size, o.outputSize = some size → Usable size
  created : ∀ n, o.layer = some n → n < o.creations
  drawn : ∀ n w h canvas, .frame n w h canvas ∈ o.wire → n < o.creations
  bare : ∀ n, o.layer = some n → ¬ Sized o.size → ∀ w h canvas, .frame n w h canvas ∉ o.wire

theorem usable_default : Usable (1920, 1080) := by decide

/-- The size that a `configure` gives the surface. -/
theorem Served.usable {o : Overlay} (h : Served o) {newSize : UInt32 × UInt32}
    (hfits : Fits newSize) : Usable (o.effectiveSize newSize) := by
  unfold effectiveSize
  split
  · next hsized => exact ⟨hsized, hfits⟩
  · cases hout : o.outputSize with
    | none => exact usable_default
    | some size => exact h.output size hout

theorem creations_setAlpha_le (alpha : Float) (o : Overlay) :
    o.creations ≤ (o.setAlpha alpha).creations := by
  simp only [setAlpha]
  split
  · split
    · rw [creations_createLayer]
      exact Nat.le_succ _
    · exact Nat.le_refl _
  · rw [creations_draw]
    exact Nat.le_refl _

/-- The surface a command leaves was there, or has just been created. -/
theorem layer_of_setAlpha {o : Overlay} {alpha : Float} {n : Nat}
    (h : (o.setAlpha alpha).layer = some n) :
    (o.layer = some n ∧ (o.setAlpha alpha).size = o.size) ∨
      (n = o.creations ∧ (o.setAlpha alpha).creations = o.creations + 1) := by
  cases hnone : o.layer.isNone with
  | true =>
      by_cases hpos : 0.0 < F64.clamp alpha 0.0 1.0
      · simp only [setAlpha, hnone, if_true, if_pos hpos] at h ⊢
        obtain rfl := Option.some.inj h
        exact .inr ⟨rfl, creations_createLayer _⟩
      · have hsame : o.setAlpha alpha = { o with alpha := F64.clamp alpha 0.0 1.0 } := by
          simp only [setAlpha, hnone, if_true, if_neg hpos]
        rw [hsame] at h ⊢
        exact .inl ⟨h, rfl⟩
  | false =>
      simp only [setAlpha, hnone, Bool.false_eq_true, if_false, layer_draw] at h ⊢
      exact .inl ⟨h, size_draw _⟩

theorem served_setAlpha {o : Overlay} (h : Served o) (alpha : Float) :
    Served (o.setAlpha alpha) := by
  have hle := creations_setAlpha_le alpha o
  have hcreated : ∀ n, (o.setAlpha alpha).layer = some n → n < (o.setAlpha alpha).creations := by
    intro n hn
    rcases layer_of_setAlpha hn with ⟨hold, -⟩ | ⟨rfl, hnew⟩
    · exact Nat.lt_of_lt_of_le (h.created n hold) hle
    · omega
  refine { toDrawn := drawn_setAlpha h.toDrawable alpha, clamped := ?_, wanted := ?_, output := ?_
           created := hcreated, drawn := ?_, bare := ?_ }
  · rw [alpha_setAlpha, F64.clamp_clamp]
  · exact hasSurface_setAlpha alpha o
  · rw [outputSize_setAlpha]
    exact h.output
  · intro n w ht canvas hmem
    cases frame_of_setAlpha hmem with
    | inl hold => exact Nat.lt_of_lt_of_le (h.drawn n w ht canvas hold) hle
    | inr hnow => exact hcreated n hnow.1
  · intro n hn hunsized w ht canvas hmem
    cases frame_of_setAlpha hmem with
    | inr hnow => exact hunsized hnow.2
    | inl hold =>
        rcases layer_of_setAlpha hn with ⟨hlayer, hsize⟩ | ⟨rfl, -⟩
        · rw [hsize] at hunsized
          exact h.bare n hlayer hunsized w ht canvas hold
        · exact Nat.lt_irrefl _ (h.drawn _ w ht canvas hold)

theorem served_configure {o : Overlay} (h : Served o) {newSize : UInt32 × UInt32}
    (hlayer : o.layer.isSome = true) (hfits : Fits newSize) : Served (o.configure newSize) := by
  have husable := h.usable hfits
  have hdrawn : Drawn (o.configure newSize) :=
    drawn_onEvent (e := .configure newSize) h.toDrawn ⟨hlayer, husable.2⟩
  have hsame : (o.configure newSize).layer = o.layer := layer_draw _
  have halpha : (o.configure newSize).alpha = o.alpha := alpha_draw _
  have hsize : (o.configure newSize).size = o.effectiveSize newSize := size_draw _
  have houtput : (o.configure newSize).outputSize = o.outputSize := outputSize_draw _
  have hcreations : (o.configure newSize).creations = o.creations := creations_draw _
  refine { toDrawn := hdrawn, clamped := ?_, wanted := fun _ => by rw [hsame, hlayer], output := ?_
           created := ?_, drawn := ?_, bare := ?_ }
  · rw [halpha]
    exact h.clamped
  · rw [houtput]
    exact h.output
  · rw [hsame, hcreations]
    exact h.created
  · intro n w ht canvas hmem
    rw [hcreations]
    cases frame_of_draw hmem with
    | inl hold => exact h.drawn n w ht canvas hold
    | inr hnow => exact h.created n (hsame ▸ hnow.1)
  · intro n _ hunsized
    rw [hsize] at hunsized
    exact absurd husable.1 hunsized

theorem served_onServed {o : Overlay} (h : Served o) (e : ServedEvent) : Served (o.onServed e) := by
  obtain ⟨e, he⟩ := e
  unfold onServed
  split
  · exact h
  · next hsurface =>
      cases e with
      | closed => contradiction
      | configure newSize =>
          have hlayer : o.layer.isSome = true := by
            simpa [Event.isConfigure, Option.isSome_iff_ne_none] using hsurface
          exact served_configure h hlayer (of_decide_eq_true he)
      | output info =>
          show Served (o.rememberOutput info)
          unfold rememberOutput
          cases hinfo : info.bind outputSizeOf with
          | none => exact h
          | some size =>
              have husable : Usable size := by
                rw [Event.served, hinfo] at he
                exact of_decide_eq_true he
              refine { toDrawn := ?_, clamped := h.clamped, wanted := h.wanted, output := ?_
                       created := h.created, drawn := h.drawn, bare := h.bare }
              · exact { shm := h.shm, unsized := h.unsized, fits := h.fits, shown := h.shown }
              · intro size' hsize'
                obtain rfl := Option.some.inj hsize'
                exact husable
      | shm memory =>
          exact { shm := he, unsized := h.unsized, fits := h.fits, shown := h.shown
                  clamped := h.clamped, wanted := h.wanted, output := h.output
                  created := h.created, drawn := h.drawn, bare := h.bare }

theorem layer_restore (shm : Option Memory) {alpha : Float} (h : 0.0 < alpha) :
    (restore shm alpha).layer.isSome = true := by
  simp only [restore, if_pos h]
  rfl

theorem served_restore (memory : Memory) {alpha : Float} (h : F64.clamp alpha 0.0 1.0 = alpha) :
    Served (restore (some memory) alpha) := by
  refine { toDrawn := drawn_restore memory alpha, clamped := ?_, wanted := ?_, output := ?_
           created := ?_, drawn := ?_, bare := ?_ }
  · rw [alpha_restore, h]
  · intro hpos
    rw [alpha_restore] at hpos
    exact layer_restore _ hpos
  · intro size hsize
    rw [outputSize_restore] at hsize
    contradiction
  all_goals
    simp only [restore]
    split
    all_goals simp [createLayer, creations, isCreate]

/-! ## what is on the screen -/

/-- **A served connection shows its alpha**, once its surface has been configured. -/
theorem shows_of_served {o : Overlay} (h : Served o) : o.Shows (F64.opacity o.alpha) := by
  unfold Shows shown awaitsConfigure
  cases hlayer : o.layer with
  | none =>
      have hpos : ¬ 0.0 < o.alpha := by
        intro hpos
        have hsome := h.wanted hpos
        simp [hlayer] at hsome
      have hzero : F64.alphaByte 0.0 = 0 := by decide
      rw [F64.opacity_of_not_lt hpos, hzero]
      simp
  | some n =>
      by_cases hsized : Sized o.size
      · have hawaits : (o.size.1 == 0 || o.size.2 == 0) = false := by
          simpa [Sized] using hsized
        simp only [Option.bind_some, h.shown n hlayer hsized, hawaits, Bool.and_false,
          Bool.false_eq_true, if_false]
        rw [canvasAlpha_blackPixels (pixels_pos hsized), F64.alphaByte_opacity h.clamped]
      · have hawaits : (o.size.1 == 0 || o.size.2 == 0) = true := by
          by_cases hw : o.size.1 = 0
          · simp [hw]
          · have hh : o.size.2 = 0 := Classical.byContradiction fun hh => hsized ⟨hw, hh⟩
            simp [hh]
        simp only [Option.bind_some, lastFrame_eq_none (h.bare n hlayer hsized), hawaits,
          Option.isSome_some, Bool.and_true, if_true]

/-- A `configure` maps a surface that waits for it. -/
theorem mapped_configure {o : Overlay} (h : Served o) {newSize : UInt32 × UInt32}
    (hfits : Fits newSize) : (o.configure newSize).awaitsConfigure = false := by
  have hsized := (h.usable hfits).1
  have hsize : (o.configure newSize).size = o.effectiveSize newSize := size_draw _
  unfold awaitsConfigure
  rw [hsize]
  simpa [Sized] using fun _ => hsized

end Overlay

end GamescopeIdle
