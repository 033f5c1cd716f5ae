import GamescopeIdle.Hid
import GamescopeIdle.Lib.Lines
import Mathlib.Algebra.Group.Nat.Defs

/-!
# GamescopeIdle.Hid.Uevent

The `uevent` file of a hidraw node, as the kernel writes it and as `profile_for`
reads it: lines, one of them `HID_ID=<bus>:<vendor>:<product>` in hex.

`profile_for_reads_uevent` is the format's round trip: whatever the other lines and
the other fields are, a node is matched by the vendor that was written.
-/

namespace GamescopeIdle

namespace Hid

/-! ## hex numbers -/

/-- A hex digit, as `%X` prints it. -/
def hexChar (d : Nat) : Char :=
  if d < 10 then .ofNat ('0'.toNat + d) else .ofNat ('A'.toNat + (d - 10))

/-- The last `width` hex digits of a number. -/
def hex : Nat → Nat → List Char
  | 0, _ => []
  | width + 1, n => hex width (n / 16) ++ [hexChar (n % 16)]

theorem hexDigit_hexChar {d : Nat} (h : d < 16) : hexDigit (hexChar d) = some d := by
  have hall : ∀ d : Fin 16, hexDigit (hexChar d) = some d.val := by decide
  exact hall ⟨d, h⟩

theorem length_hex (width n : Nat) : (hex width n).length = width := by
  induction width generalizing n with
  | zero => rfl
  | succ width ih => simp [hex, ih]

/-- What is a hex digit. -/
def IsHexChar (c : Char) : Prop := ∃ d, d < 16 ∧ c = hexChar d

theorem isHexChar_of_mem {width n : Nat} {c : Char} (h : c ∈ hex width n) : IsHexChar c := by
  induction width generalizing n with
  | zero => simp [hex] at h
  | succ width ih =>
      rw [hex, List.mem_append] at h
      cases h with
      | inl h => exact ih h
      | inr h => exact ⟨n % 16, Nat.mod_lt n (by decide), List.mem_singleton.mp h⟩

/-- A property of the digits. -/
theorem IsHexChar.all {P : Char → Prop} [DecidablePred P] (hP : ∀ d : Fin 16, P (hexChar d))
    {c : Char} (h : IsHexChar c) : P c := by
  obtain ⟨d, hd, rfl⟩ := h
  exact hP ⟨d, hd⟩

/-- Reading the digits of a number that fits gives the number back. -/
theorem foldlM_hex (width n v : Nat) (h : v * 16 ^ width + n % 16 ^ width < 4294967296) :
    (hex width n).foldlM (fun value c => (hexDigit c).bind fun digit =>
      if value * 16 + digit < 4294967296 then some (value * 16 + digit) else none) v =
      some (v * 16 ^ width + n % 16 ^ width) := by
  induction width generalizing n with
  | zero => simp [hex, Nat.mod_one]
  | succ width ih =>
      have hsplit : v * 16 ^ (width + 1) + n % 16 ^ (width + 1) =
          (v * 16 ^ width + n / 16 % 16 ^ width) * 16 + n % 16 := by
        have hpow : 16 ^ (width + 1) = 16 * 16 ^ width := by rw [Nat.pow_succ, Nat.mul_comm]
        have hv : v * (16 * 16 ^ width) = v * 16 ^ width * 16 := by
          rw [Nat.mul_comm 16, Nat.mul_assoc]
        rw [hpow, Nat.mod_mul, hv]
        omega
      rw [hsplit] at h ⊢
      have hprefix : v * 16 ^ width + n / 16 % 16 ^ width < 4294967296 := by omega
      rw [hex, List.foldlM_append, ih (n / 16) hprefix]
      simp [hexDigit_hexChar (Nat.mod_lt n (by decide : 0 < 16)), h]

/-- `from_str_radix` reads what was printed. -/
theorem fromStrRadix16_hex (n : UInt32) : fromStrRadix16 (hex 8 n.toNat) = some n := by
  have hlt : n.toNat < 4294967296 := n.toNat_lt
  have hmod : n.toNat % 16 ^ 8 = n.toNat := Nat.mod_eq_of_lt hlt
  have hplus : (hex 8 n.toNat).head? ≠ some '+' := by
    intro hhead
    have hchar := isHexChar_of_mem (List.mem_of_mem_head? hhead)
    exact hchar.all (P := (· ≠ '+')) (by decide) rfl
  have hne : (hex 8 n.toNat).isEmpty = false := by
    cases hnil : hex 8 n.toNat with
    | nil => simpa [hnil] using length_hex 8 n.toNat
    | cons => rfl
  rw [fromStrRadix16]
  simp only [hplus, if_false, hne]
  rw [foldlM_hex 8 n.toNat 0 (by rw [hmod]; omega), hmod]
  simp

/-! ## the file -/

/-- The `HID_ID` line. -/
def hidIdLine (bus : UInt16) (vendor product : UInt32) : List Char :=
  "HID_ID=".toList ++ (hex 4 bus.toNat ++ ':' :: (hex 8 vendor.toNat ++ ':' :: hex 8 product.toNat))

/-- A `uevent` file with a `HID_ID` line among others. -/
def ueventFile (before after : List (List Char)) (bus : UInt16) (vendor product : UInt32) : String :=
  .ofList (Lines.text '\n' (before ++ hidIdLine bus vendor product :: after))

theorem not_mem_hex {c : Char} (h : ∀ d : Fin 16, hexChar d ≠ c) (width n : Nat) : c ∉ hex width n :=
  fun hmem => (isHexChar_of_mem hmem).all (P := (· ≠ c)) h rfl

theorem newline_not_mem_hidIdLine (bus : UInt16) (vendor product : UInt32) :
    '\n' ∉ hidIdLine bus vendor product := by
  have hno := not_mem_hex (c := '\n') (by decide)
  have hkey : '\n' ∉ "HID_ID=".toList := by decide
  have hcolon : '\n' ≠ ':' := by decide
  intro h
  obtain h | h := List.mem_append.mp h
  · exact hkey h
  obtain h | h := List.mem_append.mp h
  · exact hno 4 _ h
  obtain h | h := List.mem_cons.mp h
  · exact hcolon h
  obtain h | h := List.mem_append.mp h
  · exact hno 8 _ h
  obtain h | h := List.mem_cons.mp h
  · exact hcolon h
  · exact hno 8 _ h

/-- The vendor is the second field. -/
theorem splitOn_fields (bus vendor product : Nat) :
    ((hex 4 bus ++ ':' :: (hex 8 vendor ++ ':' :: hex 8 product)).splitOn ':')[1]? =
      some (hex 8 vendor) := by
  have hcolon := not_mem_hex (c := ':') (by decide)
  rw [List.splitOn_append_cons_self_of_not_mem (hcolon 4 bus),
    List.splitOn_append_cons_self_of_not_mem (hcolon 8 vendor)]
  exact List.getElem?_cons_succ

theorem trim_hex (width n : Nat) : trim (.ofList (hex width n)) = .ofList (hex width n) := by
  refine trim_ofList fun c hc => ?_
  exact (isHexChar_of_mem hc).all (P := (isWhitespace · = false)) (by decide)

/-- What `profile_for` does, line by line. -/
theorem profileFor_eq {uevent : String} {hidId vendorHex : List Char} {vendor : UInt32}
    (hline : (uevent.toList.splitOn '\n').findSome? (stripPrefix "HID_ID=".toList) = some hidId)
    (hfield : (hidId.splitOn ':')[1]? = some vendorHex)
    (hvendor : fromStrRadix16 (trim (.ofList vendorHex)).toList = some vendor) :
    profileFor (some uevent) = PROFILES.find? (·.vendor == vendor.toUInt16) := by
  simp only [profileFor, Option.bind_eq_bind, Option.bind_some, hline, hfield, hvendor]

/-- **The `uevent` round trip**: whatever the lines around `HID_ID`, the bus and the
product are, a node is matched by the vendor its file was written with. -/
theorem profile_for_reads_uevent {before after : List (List Char)}
    (hlines : ∀ l ∈ before ++ after, '\n' ∉ l) (hbefore : ∀ l ∈ before, ¬ "HID_ID=".toList <+: l)
    (bus : UInt16) (vendor product : UInt32) :
    profileFor (some (ueventFile before after bus vendor product)) =
      PROFILES.find? (·.vendor == vendor.toUInt16) := by
  have hline : ((ueventFile before after bus vendor product).toList.splitOn '\n').findSome?
      (stripPrefix "HID_ID=".toList) =
        some (hex 4 bus.toNat ++ ':' :: (hex 8 vendor.toNat ++ ':' :: hex 8 product.toNat)) := by
    have htext : (ueventFile before after bus vendor product).toList =
        Lines.text '\n' (before ++ hidIdLine bus vendor product :: after) := String.toList_ofList
    rw [htext]
    refine Lines.findSome_records (fun l hl => hlines l (List.mem_append_left after hl))
      (newline_not_mem_hidIdLine bus vendor product)
      (fun l hl => hlines l (List.mem_append_right before hl)) ?_ (stripPrefix_append _ _)
    exact fun l hl => if_neg (hbefore l hl)
  refine profileFor_eq hline (splitOn_fields bus.toNat vendor.toNat product.toNat) ?_
  rw [trim_hex, String.toList_ofList]
  exact fromStrRadix16_hex vendor

/-- A controller's file. -/
theorem profile_for_reads_uevent_controller :
    profileFor (some (ueventFile ["DRIVER=hid-steam".toList] ["HID_NAME=Valve".toList, []] 3 0x28DE
      0x1304)) = some VALVE_STEAM :=
  (profile_for_reads_uevent (by decide) (by decide) 3 0x28DE 0x1304).trans (by decide)

end Hid

end GamescopeIdle
