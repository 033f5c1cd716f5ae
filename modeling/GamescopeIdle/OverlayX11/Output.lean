import GamescopeIdle.Control
import GamescopeIdle.OverlayX11
import Mathlib.Data.List.MinMax

/-!
# GamescopeIdle.OverlayX11.Output

The size of the external-overlay window: `output_size`, which reads the preferred mode
of the largest connected output from DRM, and what the window `show` sizes by it covers.

The largest output is chosen by its area, and only then is the larger of its size and
the root's taken in each dimension.  So a connected output of another shape may stick
out of the window (`window_covers_outputs_iff`).
-/

namespace GamescopeIdle

/-! ## the connectors -/

/-- An entry of `/sys/class/drm`, by what its files `status` and `modes` read as (`none`:
unreadable). -/
structure DrmEntry where
  status : Option String
  modes : Option String

/-- What `read_dir` answers for `/sys/class/drm`: `none` if it fails, and otherwise its
entries in any order, some of which may not be readable. -/
abbrev DrmDir := Option (List (Option DrmEntry))

/-- A width and a height. -/
abbrev Mode := UInt16 × UInt16

/-- `str::lines().next()`. -/
def firstLine (s : List Char) : Option (List Char) :=
  if s.isEmpty then none
  else
    let line := s.takeWhile (· != '\n')
    -- a carriage return belongs to the line feed after it
    if '\n' ∈ s ∧ line.getLast? = some '\r' then some line.dropLast else some line

/-- `str::split_once`. -/
def splitOnce (sep : Char) (s : List Char) : Option (List Char × List Char) :=
  if sep ∈ s then some (s.takeWhile (· != sep), (s.dropWhile (· != sep)).tail) else none

/-- `str::parse::<u16>`: one leading `+` is allowed, an empty number and one that does
not fit are not. -/
def parseU16 (s : List Char) : Option UInt16 :=
  let digits := if s.head? = some '+' then s.tail else s
  if digits.isEmpty then none
  else
    (digits.foldlM (fun value c =>
      if c.isDigit ∧ value * 10 + (c.toNat - '0'.toNat) < 65536 then
        some (value * 10 + (c.toNat - '0'.toNat))
      else none) 0).map .ofNat

namespace DrmEntry

/-- The connector has an output. -/
def connected (e : DrmEntry) : Bool := e.status.any fun s => trim s == "connected"

/-- The preferred mode: the first line of the connector's modes, when it is `WxH`. -/
def preferredMode (e : DrmEntry) : Option Mode := do
  let modes ← e.modes
  let first ← firstLine modes.toList
  let (w, h) ← splitOnce 'x' (trim (.ofList first)).toList
  return (← parseU16 w, ← parseU16 h)

end DrmEntry

example : DrmEntry.preferredMode { status := none, modes := some "2560x1440\n1920x1080\n" } =
    some (2560, 1440) := by decide +kernel

/-- The area of a mode, as `output_size` computes it in `u32`. -/
def Mode.area (m : Mode) : UInt32 := m.1.toUInt32 * m.2.toUInt32

/-- One turn of the loop in `output_size`. -/
def considerEntry (best : Option Mode) (e : DrmEntry) : Option Mode :=
  if !e.connected then best
  else
    match e.preferredMode with
    | none => best
    | some m => if best.all (fun b => b.area < m.area) then some m else best

/-- `output_size`. -/
def outputSize (dir : DrmDir) : Option Mode :=
  dir.bind fun entries => (entries.filterMap id).foldl considerEntry none

/-! ## the largest mode -/

/-- The number of pixels. -/
def Mode.pixels (m : Mode) : Nat := m.1.toNat * m.2.toNat

/-- The `u32` area never overflows: it is the number of pixels. -/
theorem Mode.toNat_area (m : Mode) : m.area.toNat = m.pixels := by
  have hw : m.1.toNat ≤ 65535 := Nat.le_of_lt_succ m.1.toNat_lt
  have hh : m.2.toNat ≤ 65535 := Nat.le_of_lt_succ m.2.toNat_lt
  have hmul : m.1.toNat * m.2.toNat ≤ 65535 * 65535 := Nat.mul_le_mul hw hh
  rw [area, UInt32.toNat_mul, UInt16.toNat_toUInt32, UInt16.toNat_toUInt32, pixels]
  exact Nat.mod_eq_of_lt (by omega)

theorem Mode.area_lt_area {b m : Mode} : b.area < m.area ↔ b.pixels < m.pixels := by
  rw [UInt32.lt_iff_toNat_lt, toNat_area, toNat_area]

/-- The mode a connector contributes: its preferred one, if it has an output. -/
def DrmEntry.connectedMode (e : DrmEntry) : Option Mode := if e.connected then e.preferredMode else none

/-- The entries that can be read. -/
def DrmDir.entries (dir : DrmDir) : List DrmEntry := (dir.getD []).filterMap id

/-- The preferred modes of the connected connectors, in the order of the directory. -/
def DrmDir.modes (dir : DrmDir) : List Mode := dir.entries.filterMap DrmEntry.connectedMode

theorem considerEntry_eq (best : Option Mode) (e : DrmEntry) :
    considerEntry best e =
      match e.connectedMode with
      | some m => List.argAux (fun b c => Mode.pixels c < Mode.pixels b) best m
      | none => best := by
  unfold considerEntry DrmEntry.connectedMode
  cases e.connected with
  | false => rfl
  | true =>
      cases e.preferredMode with
      | none => rfl
      | some m =>
          cases best with
          | none => rfl
          | some b => simp [List.argAux, Mode.area_lt_area]

/-- The loop keeps the largest mode of the entries it has seen. -/
theorem foldl_considerEntry (es : List DrmEntry) (best : Option Mode) :
    es.foldl considerEntry best = (es.filterMap DrmEntry.connectedMode).foldl
      (List.argAux fun b c => Mode.pixels c < Mode.pixels b) best := by
  induction es generalizing best with
  | nil => rfl
  | cons e es ih =>
      rw [List.foldl_cons, ih, considerEntry_eq, List.filterMap_cons]
      cases e.connectedMode <;> rfl

/-- `output_size` is the mode with the most pixels, the first of them in a tie. -/
theorem outputSize_eq_argmax (dir : DrmDir) : outputSize dir = dir.modes.argmax Mode.pixels := by
  cases dir with
  | none => rfl
  | some entries => exact foldl_considerEntry (entries.filterMap id) none

/-! ## what the window covers -/

/-- A window of the given size covers the root and every connected output, and no area
that is compared overflows. -/
structure CoversOutputs (dir : DrmDir) (root : Mode) (size : UInt32 × UInt32) : Prop where
  root : root.1.toNat ≤ size.1.toNat ∧ root.2.toNat ≤ size.2.toNat
  outputs : ∀ e ∈ dir.entries, e.connected = true → ∀ w h, e.preferredMode = some (w, h) →
    w.toNat ≤ size.1.toNat ∧ h.toNat ≤ size.2.toNat
  areas : ∀ m ∈ dir.modes, m.area.toNat = m.1.toNat * m.2.toNat

/-- The first of the connected modes with the most pixels. -/
structure DrmDir.IsLargest (dir : DrmDir) (b : Mode) : Prop where
  mem : b ∈ dir.modes
  most : ∀ k ∈ dir.modes, k.pixels ≤ b.pixels
  first : ∀ k ∈ dir.modes, k.pixels = b.pixels → dir.modes.idxOf b ≤ dir.modes.idxOf k

/-- The largest mode, with the root, is as wide and as tall as every connected mode. -/
def NoneSticksOut (dir : DrmDir) (root : Mode) : Prop :=
  ∀ b, dir.IsLargest b → ∀ m ∈ dir.modes,
    m.1.toNat ≤ max b.1.toNat root.1.toNat ∧ m.2.toNat ≤ max b.2.toNat root.2.toNat

section
variable {dir : DrmDir} {root b m : Mode}

theorem mem_modes : m ∈ dir.modes ↔ ∃ e ∈ dir.entries, e.connected = true ∧ e.preferredMode = some m := by
  simp [DrmDir.modes, DrmEntry.connectedMode]

theorem outputSize_eq_some_iff : outputSize dir = some b ↔ dir.IsLargest b := by
  have hbeq : (instBEqProd : BEq Mode) = instBEqOfDecidableEq := lawful_beq_subsingleton _ _
  rw [outputSize_eq_argmax, List.argmax_eq_some_iff, ← hbeq]
  constructor
  · rintro ⟨hb, hmost, hfirst⟩
    exact ⟨hb, hmost, fun k hk hsame => hfirst k hk (Nat.le_of_eq hsame.symm)⟩
  · rintro ⟨hb, hmost, hfirst⟩
    exact ⟨hb, hmost, fun k hk hle => hfirst k hk (Nat.le_antisymm (hmost k hk) hle)⟩

theorem outputSize_eq_none_iff : outputSize dir = none ↔ dir.modes = [] := by
  rw [outputSize_eq_argmax, List.argmax_eq_none]

theorem toNat_max (a b : UInt16) : (max a b).toNat = max a.toNat b.toNat := by
  have hmax : max a b = if a ≤ b then b else a := rfl
  rw [hmax]
  split
  · next hle => exact (Nat.max_eq_right (UInt16.le_iff_toNat_le.mp hle)).symm
  · next hlt =>
      have hle : b.toNat ≤ a.toNat := by rw [UInt16.le_iff_toNat_le] at hlt; omega
      exact (Nat.max_eq_left hle).symm

/-- The size of the window: in each dimension the larger of the output's and the root's. -/
theorem size_showAlpha (alpha : Float) (w : X11Window) :
    (w.showAlpha alpha).size.1.toNat =
        max (w.screen.output.getD (0, 0)).1.toNat w.screen.root.1.toNat ∧
      (w.showAlpha alpha).size.2.toNat =
        max (w.screen.output.getD (0, 0)).2.toNat w.screen.root.2.toNat := by
  simp [X11Window.showAlpha, X11Window.paint, toNat_max]

end

/-- **The window covers the outputs** exactly if no connected mode sticks out of the
larger, in each dimension, of the largest one and the root. -/
theorem window_covers_outputs_iff (dir : DrmDir) (root : Mode) (alpha : Float) (w : X11Window) :
    CoversOutputs dir root ((w.onScreen { root := root, output := outputSize dir }).showAlpha alpha).size ↔
      NoneSticksOut dir root := by
  have hsize := size_showAlpha alpha (w.onScreen { root := root, output := outputSize dir })
  simp only [X11Window.onScreen] at hsize ⊢
  obtain ⟨hw, hh⟩ := hsize
  constructor
  · intro hcovers b hlargest m hm
    have hbest : outputSize dir = some b := outputSize_eq_some_iff.mpr hlargest
    obtain ⟨e, he, hconnected, hmode⟩ := mem_modes.mp hm
    have hcovered := hcovers.outputs e he hconnected m.1 m.2 hmode
    rw [hw, hh, hbest, Option.getD_some] at hcovered
    exact hcovered
  · intro hnone
    refine ⟨?_, ?_, fun m _ => m.toNat_area⟩
    · rw [hw, hh]
      exact ⟨Nat.le_max_right _ _, Nat.le_max_right _ _⟩
    · intro e he hconnected mw mh hmode
      have hm : (mw, mh) ∈ dir.modes := mem_modes.mpr ⟨e, he, hconnected, hmode⟩
      obtain ⟨b, hbest⟩ : ∃ b, outputSize dir = some b := by
        refine Option.ne_none_iff_exists'.mp fun hempty => ?_
        rw [outputSize_eq_none_iff.mp hempty] at hm
        contradiction
      rw [hw, hh, hbest, Option.getD_some]
      exact hnone b (outputSize_eq_some_iff.mp hbest) (mw, mh) hm

/-- A panel that stands upright, beside a television with more pixels: the window is too
low for the panel. -/
theorem upright_panel_sticks_out :
    let panel : DrmEntry := { status := some "connected\n", modes := some "800x1280\n" }
    let television : DrmEntry := { status := some "connected\n", modes := some "1920x1080\n1280x720\n" }
    let dir : DrmDir := some [some panel, some television]
    outputSize dir = some (1920, 1080) ∧ panel.preferredMode = some (800, 1280) ∧
      ¬ CoversOutputs dir (1280, 720)
        ((X11Window.new { root := (1280, 720), output := outputSize dir }).showAlpha 1.0).size := by
  intro panel television dir
  have hbest : outputSize dir = some (1920, 1080) := by decide +kernel
  have hmode : panel.preferredMode = some (800, 1280) := by decide +kernel
  refine ⟨hbest, hmode, ?_⟩
  intro hcovers
  have hpanel := hcovers.outputs panel (by simp [DrmDir.entries, dir]) (by decide +kernel) 800 1280 hmode
  have hsize := size_showAlpha 1.0 (X11Window.new { root := (1280, 720), output := outputSize dir })
  rw [hsize.2] at hpanel
  have hheight : max (1080 : UInt16).toNat (720 : UInt16).toNat = 1080 := by decide
  simp only [X11Window.new, hbest, Option.getD_some, hheight] at hpanel
  exact absurd hpanel.2 (by decide)

end GamescopeIdle
