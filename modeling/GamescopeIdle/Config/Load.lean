import GamescopeIdle.Config

/-!
# GamescopeIdle.Config.Load

`Config::load`: the configuration file, from its TOML document to the `Config` that
`serde` derives the reading of.  Parsing the text into a document is left to a
parameter; the document's keys are then taken up one for one, over the defaults.

A TOML integer is an `i64`, and nothing but its sign is checked: the two timeouts can
be any number of seconds below 2^63, and no other (`loads_timeouts_iff`).
-/

namespace GamescopeIdle

/-! ## documents -/

/-- A value of a TOML document, of the kinds that the fields of `Config` are written as. -/
inductive TomlValue where
  | integer (value : Int64)
  | float (value : Float)
  | boolean (value : Bool)
  | string (value : String)
  | array (values : List TomlValue)
  | table (entries : List (String × TomlValue))

/-- A document: its keys, each with its value.  No key occurs twice. -/
abbrev TomlTable := List (String × TomlValue)

namespace TomlValue

/-- `u64`: an integer that is not negative. -/
def asU64 : TomlValue → Option UInt64
  | integer n => if 0 ≤ n then some (.ofNat n.toInt.toNat) else none
  | _ => none

/-- `f64`: a float, or an integer. -/
def asF64 : TomlValue → Option Float
  | float x => some x
  | integer n => some n.toFloat
  | _ => none

def asBool : TomlValue → Option Bool
  | boolean b => some b
  | _ => none

def asString : TomlValue → Option String
  | string s => some s
  | _ => none

/-- `Vec<String>`. -/
def asStrings : TomlValue → Option (List String)
  | array values => values.mapM asString
  | _ => none

/-- A variant of `CecMode`, whose names are in lower case. -/
def cecMode : String → Option CecMode
  | "auto" => some .auto
  | "off" => some .off
  | "on" => some .on
  | _ => none

/-- What may stand in a variant that has no fields. -/
def isEmpty : TomlValue → Bool
  | array [] | table [] => true
  | _ => false

/-- `CecMode`: the name of a variant, or a table with the variant as its only key. -/
def asCecMode : TomlValue → Option CecMode
  | string name => cecMode name
  | table [(name, content)] => if content.isEmpty then cecMode name else none
  | _ => none

end TomlValue

/-! ## the configuration -/

namespace Config

/-- Take up one key; an unknown one is refused. -/
def setField (cfg : Config) (key : String) (value : TomlValue) : Option Config :=
  match key with
  | "idle_timeout" => value.asU64.map fun v => { cfg with idleTimeoutSecs := v }
  | "dim_warning" => value.asU64.map fun v => { cfg with dimWarningSecs := v }
  | "dim_alpha" => value.asF64.map fun v => { cfg with dimAlpha := v }
  | "cec" => value.asCecMode.map fun v => { cfg with cec := v }
  | "cec_device" => value.asString.map fun v => { cfg with cecDevice := v }
  | "ignore_devices" => value.asStrings.map fun v => { cfg with ignoreDevices := v }
  | "watch_hidraw" => value.asBool.map fun v => { cfg with watchHidraw := v }
  | "overlay_backend" => value.asString.map fun v => { cfg with overlayBackend := v }
  | _ => none

/-- The configuration of a document: the defaults, where it says nothing else. -/
def fromTable (table : TomlTable) : Option Config :=
  table.foldlM (fun cfg (key, value) => cfg.setField key value) default

/-- Why a file cannot be read. -/
inductive ReadError where
  | notFound
  | other (error : String)

inductive LoadError where
  /-- `toml::from_str` refuses the text. -/
  | toml
  | reading (message : String)
deriving DecidableEq, Repr

/-- `Config::load`. -/
def load (readToString : String → Except ReadError String) (parse : String → Option TomlTable)
    (defaultPath path : Option String) : Except LoadError Config :=
  match path.or defaultPath with
  | none => .ok default
  | some p =>
      match readToString p with
      | .ok text =>
          match (parse text).bind fromTable with
          | some cfg => .ok cfg
          | none => .error .toml
      | .error .notFound => .ok default
      | .error (.other e) => .error (.reading s!"reading {p}: {e}")

/-! ## the timeouts that can be loaded -/

/-- Both timeouts are below 2^63 seconds. -/
def Admitted (cfg : Config) : Prop :=
  cfg.idleTimeoutSecs.toNat < 9223372036854775808 ∧ cfg.dimWarningSecs.toNat < 9223372036854775808

theorem admitted_default : Admitted default := ⟨by decide, by decide⟩

theorem asU64_lt {value : TomlValue} {n : UInt64} (h : value.asU64 = some n) :
    n.toNat < 9223372036854775808 := by
  cases value with
  | integer i =>
      have hmax := i.toInt_lt
      simp only [TomlValue.asU64, Option.ite_none_right_eq_some, Option.some.injEq] at h
      obtain ⟨-, rfl⟩ := h
      rw [UInt64.toNat_ofNat']
      omega
  | _ => contradiction

/-- Every key keeps the timeouts within their bounds. -/
theorem admitted_setField {cfg cfg' : Config} {key : String} {value : TomlValue} (h : cfg.Admitted)
    (hset : cfg.setField key value = some cfg') : cfg'.Admitted := by
  unfold setField at hset
  split at hset
  case h_1 =>
    obtain ⟨v, hv, rfl⟩ := Option.map_eq_some_iff.mp hset
    exact ⟨asU64_lt hv, h.2⟩
  case h_2 =>
    obtain ⟨v, hv, rfl⟩ := Option.map_eq_some_iff.mp hset
    exact ⟨h.1, asU64_lt hv⟩
  case h_9 => contradiction
  all_goals
    obtain ⟨v, -, rfl⟩ := Option.map_eq_some_iff.mp hset
    exact h

theorem admitted_foldlM {table : TomlTable} {cfg cfg' : Config} (h : cfg.Admitted)
    (hfold : table.foldlM (fun cfg (key, value) => cfg.setField key value) cfg = some cfg') :
    cfg'.Admitted := by
  induction table generalizing cfg with
  | nil =>
      rw [List.foldlM_nil] at hfold
      exact Option.some.inj hfold ▸ h
  | cons entry table ih =>
      rw [List.foldlM_cons] at hfold
      obtain ⟨cfg₁, hset, hrest⟩ := Option.bind_eq_some_iff.mp hfold
      exact ih (admitted_setField h hset) hrest

theorem admitted_fromTable {table : TomlTable} {cfg : Config} (h : fromTable table = some cfg) :
    cfg.Admitted := admitted_foldlM admitted_default h

/-- Whatever the file says, the timeouts that are loaded are below 2^63 seconds. -/
theorem admitted_load {readToString : String → Except ReadError String}
    {parse : String → Option TomlTable} {defaultPath path : Option String} {cfg : Config}
    (h : load readToString parse defaultPath path = .ok cfg) : cfg.Admitted := by
  unfold load at h
  split at h
  · exact Except.ok.inj h ▸ admitted_default
  · split at h
    · split at h
      · next cfg' htable =>
          obtain ⟨table, -, hfields⟩ := Option.bind_eq_some_iff.mp htable
          exact Except.ok.inj h ▸ admitted_fromTable hfields
      · contradiction
    · exact Except.ok.inj h ▸ admitted_default
    · contradiction

/-- The document that sets the two timeouts. -/
def timeoutsTable (idle dim : UInt64) : TomlTable :=
  [("idle_timeout", .integer idle.toInt64), ("dim_warning", .integer dim.toInt64)]

theorem asU64_toInt64 {n : UInt64} (h : n.toNat < 9223372036854775808) :
    (TomlValue.integer n.toInt64).asU64 = some n := by
  have hint : n.toInt64.toInt = n.toNat := by
    have hhalf : 2 * n.toBitVec.toNat < 18446744073709551616 := by
      show 2 * n.toNat < 18446744073709551616
      omega
    show n.toBitVec.toInt = n.toNat
    rw [BitVec.toInt_eq_toNat_of_lt hhalf]
    rfl
  have hpos : 0 ≤ n.toInt64 := by
    rw [Int64.le_iff_toInt_le, hint]
    exact Int.natCast_nonneg n.toNat
  rw [TomlValue.asU64, if_pos hpos, hint, Int.toNat_natCast, UInt64.ofNat_toNat]

theorem fromTable_timeoutsTable {idle dim : UInt64} (hidle : idle.toNat < 9223372036854775808)
    (hdim : dim.toNat < 9223372036854775808) :
    fromTable (timeoutsTable idle dim) =
      some { (default : Config) with idleTimeoutSecs := idle, dimWarningSecs := dim } := by
  simp [fromTable, timeoutsTable, setField, asU64_toInt64 hidle, asU64_toInt64 hdim]

/-- **The timeouts that can be loaded** are those below 2^63 seconds. -/
theorem loads_timeouts_iff (idle dim : UInt64) :
    (∃ table cfg, fromTable table = some cfg ∧ cfg.idleTimeoutSecs = idle ∧ cfg.dimWarningSecs = dim) ↔
      idle.toNat < 9223372036854775808 ∧ dim.toNat < 9223372036854775808 := by
  constructor
  · rintro ⟨table, cfg, hfields, rfl, rfl⟩
    exact admitted_fromTable hfields
  · rintro ⟨hidle, hdim⟩
    exact ⟨timeoutsTable idle dim, _, fromTable_timeoutsTable hidle hdim, rfl, rfl⟩

end Config

end GamescopeIdle
