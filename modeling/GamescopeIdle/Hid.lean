import GamescopeIdle.Control

/-!
# GamescopeIdle.Hid

Controller activity from hidraw reports (`hid.rs`): the layout of the known
controllers, how a node is matched to one of them, and the loop that reads a node's
reports.

An index that is out of range panics.  `Checked` makes that visible: it is `none`.
The debug lines are left out, and with them the throttle that only they read.
-/

namespace GamescopeIdle

namespace Hid

/-- A computation that may index out of range. -/
abbrev Checked (α : Type) := Option α

/-! ## profiles -/

/-- A known controller's report layout. -/
structure Profile where
  name : String
  vendor : UInt16
  reportId : UInt8
  minLen : Nat
  buttonsOffset : Nat
  buttonMask : UInt32
  stickAxes : List Nat
  stickDeadzone : Int32
deriving DecidableEq, Repr

/-- The capacitive touch and grip bits of the Triton button field. -/
def TRITON_CAPACITIVE : UInt32 :=
  0x00100000 ||| 0x00200000 ||| 0x01000000 ||| 0x02000000 ||| 0x10000000 ||| 0x20000000

def VALVE_STEAM : Profile where
  name := "Valve Steam Controller"
  vendor := 0x28DE
  reportId := 0x42
  minLen := 18
  buttonsOffset := 2
  buttonMask := ~~~TRITON_CAPACITIVE
  stickAxes := [10, 12, 14, 16]
  stickDeadzone := 8000

def PROFILES : List Profile := [VALVE_STEAM]

/-! ## matching a node -/

/-- `char::to_digit(16)`. -/
def hexDigit (c : Char) : Option Nat :=
  if '0' ≤ c ∧ c ≤ '9' then some (c.toNat - '0'.toNat)
  else if 'a' ≤ c ∧ c ≤ 'f' then some (c.toNat - 'a'.toNat + 10)
  else if 'A' ≤ c ∧ c ≤ 'F' then some (c.toNat - 'A'.toNat + 10)
  else none

/-- `u32::from_str_radix` for radix 16: one leading `+` is allowed, an empty number and
one that does not fit are not. -/
def fromStrRadix16 (s : List Char) : Option UInt32 :=
  let digits := if s.head? = some '+' then s.tail else s
  if digits.isEmpty then none
  else
    (digits.foldlM (fun value c => (hexDigit c).bind fun digit =>
      if value * 16 + digit < 4294967296 then some (value * 16 + digit) else none) 0).map .ofNat

/-- `str::strip_prefix`. -/
def stripPrefix (pattern s : List Char) : Option (List Char) :=
  if pattern <+: s then some (s.drop pattern.length) else none

theorem stripPrefix_append (pattern rest : List Char) :
    stripPrefix pattern (pattern ++ rest) = some rest := by
  rw [stripPrefix, if_pos (List.prefix_append pattern rest), List.drop_left]

/-- `profile_for`, given what the node's sysfs `uevent` file reads as: the profile of the
vendor in its `HID_ID=<bus>:<vendor>:<product>` line.  A carriage return that `lines`
would drop is trimmed here with the vendor. -/
def profileFor (uevent : Option String) : Option Profile := do
  let uevent ← uevent
  let hidId ← (uevent.toList.splitOn '\n').findSome? (stripPrefix "HID_ID=".toList)
  let vendorHex ← (hidId.splitOn ':')[1]?
  let vendor ← fromStrRadix16 (trim (.ofList vendorHex)).toList
  PROFILES.find? (·.vendor == vendor.toUInt16)

example : profileFor (some "DRIVER=hid-generic\nHID_ID=0003:000028DE:00001304\n") = some VALVE_STEAM := by
  decide +kernel

/-! ## reports -/

/-- `u32::from_le_bytes`. -/
def u32FromLeBytes (b₀ b₁ b₂ b₃ : UInt8) : UInt32 :=
  b₀.toUInt32 ||| b₁.toUInt32 <<< 8 ||| b₂.toUInt32 <<< 16 ||| b₃.toUInt32 <<< 24

/-- `i16::from_le_bytes`. -/
def i16FromLeBytes (b₀ b₁ : UInt8) : Int16 := (b₀.toUInt16 ||| b₁.toUInt16 <<< 8).toInt16

/-- `slice::get` of the range from `o`, `len` long. -/
def getRange (report : List UInt8) (o len : Nat) : Option (List UInt8) :=
  if o + len ≤ report.length then some ((report.drop o).take len) else none

/-- `masked_buttons`. -/
def maskedButtons (report : List UInt8) (profile : Profile) : Checked (Option UInt32) :=
  match getRange report profile.buttonsOffset 4 with
  | none => some none
  | some b => do
      let raw := u32FromLeBytes (← b[0]?) (← b[1]?) (← b[2]?) (← b[3]?)
      return some (raw &&& profile.buttonMask)

/-- One axis in `stick_deflected`. -/
def axisDeflected (report : List UInt8) (profile : Profile) (o : Nat) : Checked Bool :=
  match getRange report o 2 with
  | none => some false
  | some b => do
      let axis := i16FromLeBytes (← b[0]?) (← b[1]?)
      return decide (profile.stickDeadzone < axis.toInt32.abs)

/-- `stick_deflected`. -/
def stickDeflected (report : List UInt8) (profile : Profile) : Checked Bool :=
  profile.stickAxes.anyM (axisDeflected report profile)

/-! ## the loop -/

/-- The report is one that the profile parses. -/
def accepts (profile : Profile) (report : List UInt8) : Checked Bool :=
  if report.length < profile.minLen then some false
  else report[0]?.map (· == profile.reportId)

/-- `button_changed`: a digital button has changed since the last report. -/
def buttonChanged (profile : Profile) (prev report : List UInt8) : Checked Bool :=
  if prev.isEmpty then some false
  else do return (← maskedButtons report profile) != (← maskedButtons prev profile)

/-- Whether an accepted report is activity: a digital button has changed, or a stick is
pushed past the deadzone. -/
def isActivity (profile : Profile) (prev report : List UInt8) : Checked Bool := do
  let buttonChanged ← buttonChanged profile prev report
  let stickActive ← stickDeflected report profile
  return buttonChanged || stickActive

/-- What one read puts into the buffer, which has 128 bytes. -/
structure Report where
  bytes : List UInt8
  fits : bytes.length ≤ 128

/-- What one turn of the loop reads. -/
inductive Read where
  | ok (report : Report)
  | error
  /-- Readiness was spurious. -/
  | wouldBlock

/-- The loop of `read_loop`: for every read up to the end whether it sends on `tx`. -/
def readLoop (profile : Profile) : List UInt8 → List Read → Checked (List Bool)
  | _, [] => some []
  | prev, .wouldBlock :: reads => (readLoop profile prev reads).map (false :: ·)
  | _, .error :: _ => some []
  | prev, .ok report :: reads =>
      if report.bytes.isEmpty then some [] -- EOF
      else
        match accepts profile report.bytes with
        | none => none
        | some false => (readLoop profile prev reads).map (false :: ·)
        | some true =>
            match isActivity profile prev report.bytes with
            | none => none
            | some active => (readLoop profile report.bytes reads).map (active :: ·)

end Hid

end GamescopeIdle
