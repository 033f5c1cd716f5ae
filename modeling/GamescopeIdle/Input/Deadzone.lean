import GamescopeIdle.Input.Axes

/-!
# GamescopeIdle.Input.Deadzone

The `i32` arithmetic of the deadzones: the range of an axis, the kernel deadzone's
absolute value, and the distance between two samples.

Nothing bounds what the kernel reports, so each of the three can overflow: a build with
overflow checks panics there (the `Checked` functions are `none`), and a release build
wraps.  Where the axis is `Bounded` and the samples are `Close`, none of them does, and
deadzone and decision are the mathematical ones (`deadzone_exact_iff`).
-/

namespace GamescopeIdle

namespace Input

/-! ## a build with overflow checks -/

/-- The deadzone of one axis, `none` where computing it overflows. -/
def absThresholdChecked (info : AbsInfo) : Option Int32 := do
  let range := max (← I32.checkedSub info.maximum info.minimum) 0
  let flat ← I32.checkedAbs info.flat
  return max (max (range / 20) flat) 1

/-- `abs_thresholds`. -/
def absThresholdsChecked (dev : Device) : Option Axes :=
  match dev.absState with
  | some states =>
      states.zipIdx.foldlM (fun map (info, code) => do
        return map.insert (.ofNat code) (← absThresholdChecked info)) ∅
  | none => some ∅

/-- Whether a sample is a deadzone or more from the one before it. -/
def movedChecked (threshold prev value : Int32) : Option Bool := do
  let distance ← I32.checkedAbs (← I32.checkedSub value prev)
  return decide (threshold ≤ distance)

/-- `is_activity`. -/
def isActivityChecked (ev : InputEvent) (thresholds lastAbs : Axes) : Option (Bool × Axes) :=
  match ev.eventType with
  | .key | .relative => some (true, lastAbs)
  | .absolute => do
      let threshold := (thresholds.lookup ev.code).getD 1
      let moved ←
        match lastAbs.lookup ev.code with
        | some prev => movedChecked threshold prev ev.value
        | none => some false
      return (moved, lastAbs.insert ev.code ev.value)
  | .other _ => some (false, lastAbs)

/-- The loop of `watch_device`. -/
def watchFromChecked (thresholds : Axes) : Axes → List InputEvent → Option (List Bool)
  | _, [] => some []
  | lastAbs, ev :: evs => do
      let (active, lastAbs') ← isActivityChecked ev thresholds lastAbs
      return active :: (← watchFromChecked thresholds lastAbs' evs)

/-- `watch_device`. -/
def watchDeviceChecked (dev : Device) (evs : List InputEvent) : Option (List Bool) := do
  watchFromChecked (← absThresholdsChecked dev) ∅ evs

/-! ## where nothing overflows -/

/-- The range of the axis fits in `i32`, and so does the size of its kernel deadzone. -/
structure AbsInfo.Bounded (info : AbsInfo) : Prop where
  range : I32.InRange (info.maximum.toInt - info.minimum.toInt)
  flat : info.flat.toInt ≠ -2147483648

instance (info : AbsInfo) : Decidable info.Bounded :=
  decidable_of_iff (I32.InRange (info.maximum.toInt - info.minimum.toInt) ∧ info.flat.toInt ≠ -2147483648)
    ⟨fun h => ⟨h.1, h.2⟩, fun h => ⟨h.range, h.flat⟩⟩

/-- The deadzone as the source describes it, over the integers: 5% of the range, but at
least the kernel deadzone and at least 1. -/
def AbsInfo.deadzone (info : AbsInfo) : Int :=
  max 1 (max info.flat.toInt.natAbs (max 0 (info.maximum.toInt - info.minimum.toInt) / 20))

/-- Two samples are less than 2^31 apart. -/
def Close (prev value : Int32) : Prop := (value.toInt - prev.toInt).natAbs < 2147483648

instance (prev value : Int32) : Decidable (Close prev value) := Nat.decLt _ _

/-- If the event is a sample, it is close to the last one of its axis. -/
def StaysClose (last : Option Int32) (ev : InputEvent) : Prop :=
  ev.eventType = .absolute → ∀ prev ∈ last, Close prev ev.value

instance (last : Option Int32) (ev : InputEvent) : Decidable (StaysClose last ev) :=
  decidable_of_iff (ev.eventType = .absolute → last.all (fun prev => decide (Close prev ev.value)) = true) (by
    simp [StaysClose, Option.all_eq_true])

/-- With overflow checks the deadzone is computed for the bounded axes, and is that of
a release build. -/
theorem absThresholdChecked_eq (info : AbsInfo) :
    absThresholdChecked info = if info.Bounded then some (absThreshold info) else none := by
  unfold absThresholdChecked I32.checkedSub I32.checkedAbs
  by_cases hrange : I32.InRange (info.maximum.toInt - info.minimum.toInt)
  · by_cases hflat : info.flat.toInt = -2147483648
    · have hno : ¬ info.Bounded := fun h => h.flat hflat
      simp [hrange, hflat, hno]
    · have hyes : info.Bounded := ⟨hrange, hflat⟩
      simp [hrange, hflat, hyes, absThreshold]
  · have hno : ¬ info.Bounded := fun h => hrange h.range
    simp [hrange, hno]

/-- The deadzone of a bounded axis is the mathematical one. -/
theorem toInt_absThreshold {info : AbsInfo} (h : info.Bounded) : (absThreshold info).toInt = info.deadzone := by
  have hzero : (0 : Int32).toInt = 0 := by decide
  have hone : (1 : Int32).toInt = 1 := by decide
  have htwenty : (20 : Int32).toInt = 20 := by decide
  have hrange : (max (info.maximum - info.minimum) 0).toInt =
      max (info.maximum.toInt - info.minimum.toInt) 0 := by
    rw [I32.toInt_max, I32.toInt_sub h.range, hzero]
  have hdiv : (max (info.maximum - info.minimum) 0 / 20).toInt =
      max (info.maximum.toInt - info.minimum.toInt) 0 / 20 := by
    rw [I32.toInt_div (by rw [hrange]; omega) (by rw [htwenty]; omega), hrange, htwenty]
  rw [absThreshold, I32.toInt_max, I32.toInt_max, hdiv, I32.toInt_abs h.flat, hone, AbsInfo.deadzone]
  omega

theorem movedChecked_eq (threshold prev value : Int32) :
    movedChecked threshold prev value =
      if Close prev value then some (decide (threshold ≤ (value - prev).abs)) else none := by
  have hdistance : (I32.checkedSub value prev).bind I32.checkedAbs =
      if Close prev value then some (value - prev).abs else none :=
    I32.checkedSub_bind_checkedAbs value prev
  simp only [movedChecked, Option.bind_eq_bind, ← Option.bind_assoc, hdistance]
  by_cases hclose : Close prev value
  · rw [if_pos hclose, if_pos hclose]
    rfl
  · rw [if_neg hclose, if_neg hclose]
    rfl

/-- With overflow checks an event is decided when its axis has moved by less than 2^31,
and as in a release build. -/
theorem isActivityChecked_eq (ev : InputEvent) (thresholds lastAbs : Axes) :
    isActivityChecked ev thresholds lastAbs =
      if StaysClose (lastAbs.lookup ev.code) ev then some (isActivity ev thresholds lastAbs) else none := by
  unfold isActivityChecked isActivity
  cases htype : ev.eventType with
  | absolute =>
      cases hprev : lastAbs.lookup ev.code with
      | none => simp [StaysClose]
      | some prev => by_cases hclose : Close prev ev.value <;> simp [StaysClose, htype, movedChecked_eq, hclose]
  | _ => simp [StaysClose, htype]

/-! ## the table and the stream -/

/-- The table holds the deadzone of every axis that the device describes; there are no
more of them than axis codes. -/
theorem lookup_absThresholds {dev : Device} {states : List AbsInfo} (hstates : dev.absState = some states)
    (hcodes : states.length ≤ 65536) (code : UInt16) :
    (absThresholds dev).lookup code = states[code.toNat]?.map absThreshold := by
  unfold absThresholds
  rw [hstates]
  clear hstates
  induction states using List.reverseRecOn with
  | nil => rfl
  | append_singleton states info ih =>
      rw [List.length_append, List.length_singleton] at hcodes
      have hlast : (UInt16.ofNat states.length).toNat = states.length := by
        rw [UInt16.toNat_ofNat']
        omega
      simp only [List.zipIdx_append, List.foldl_append, List.zipIdx_singleton, Nat.zero_add,
        List.foldl_cons, List.foldl_nil, Table.lookup_insert, ih (by omega)]
      by_cases hcode : code = .ofNat states.length
      · rw [if_pos hcode, hcode, hlast, List.getElem?_append_right (Nat.le_refl _), Nat.sub_self]
        rfl
      · have hne : code.toNat ≠ states.length := fun h => hcode (UInt16.toNat_inj.mp (h.trans hlast.symm))
        rw [if_neg hcode]
        by_cases hlt : code.toNat < states.length
        · rw [List.getElem?_append_left hlt]
        · rw [List.getElem?_eq_none (by omega), List.getElem?_eq_none (by simp; omega)]

/-- The deadzone arithmetic is exact for two consecutive samples of an axis, the second
one after the events `past`. -/
structure DeadzoneExact (dev : Device) (code : UInt16) (info : AbsInfo) (past : List InputEvent)
    (prev : Int32) (ev : InputEvent) : Prop where
  deadzone : ((absThresholds dev).lookup code).map Int32.toInt = some info.deadzone
  decision : reported (absThresholds dev) past ev = true ↔
    info.deadzone ≤ (ev.value.toInt - prev.toInt).natAbs
  /-- Nothing overflows. -/
  thresholdChecked : (absThresholdChecked info).isSome = true
  activityChecked :
    (isActivityChecked ev (absThresholds dev) (lastAbsAfter (absThresholds dev) past)).isSome = true

theorem isSome_absThresholdChecked_iff (info : AbsInfo) :
    (absThresholdChecked info).isSome = true ↔ info.Bounded := by
  rw [absThresholdChecked_eq]
  split <;> simp [*]

section
variable {dev : Device} {states : List AbsInfo} {code : UInt16} {info : AbsInfo}
  {past : List InputEvent} {prev : Int32} {ev : InputEvent}

theorem staysClose_iff (hprev : (samples code past).getLast? = some prev) (hev : onAxis code ev = true) :
    StaysClose (samples code past).getLast? ev ↔ Close prev ev.value := by
  simp [StaysClose, hprev, (onAxis_iff.mp hev).1]

theorem isSome_isActivityChecked_iff (thresholds : Axes) (hprev : (samples code past).getLast? = some prev)
    (hev : onAxis code ev = true) :
    (isActivityChecked ev thresholds (lastAbsAfter thresholds past)).isSome = true ↔
      Close prev ev.value := by
  rw [isActivityChecked_eq, (onAxis_iff.mp hev).2, lookup_lastAbsAfter, ← staysClose_iff hprev hev]
  split
  · next h => exact iff_of_true rfl h
  · next h => exact iff_of_false nofun h

/-- The decision on the second of two close samples is the mathematical one. -/
theorem reported_iff_deadzone (hlookup : (absThresholds dev).lookup code = some (absThreshold info))
    (hbounded : info.Bounded) (hprev : (samples code past).getLast? = some prev)
    (hclose : Close prev ev.value) (hev : onAxis code ev = true) :
    reported (absThresholds dev) past ev = true ↔
      info.deadzone ≤ (ev.value.toInt - prev.toInt).natAbs := by
  rw [reported_iff hev, hprev, threshold, hlookup, Option.getD_some]
  simp only [Option.mem_some_iff, exists_eq_left']
  rw [Int32.le_iff_toInt_le, toInt_absThreshold hbounded, I32.toInt_abs_sub hclose]

/-- **Deadzone arithmetic is exact** exactly for bounded axes and close samples.  The array
of descriptions, indexed by axis code, is no longer than there are codes. -/
theorem deadzone_exact_iff (hstates : dev.absState = some states) (hcodes : states.length ≤ 65536)
    (hinfo : states[code.toNat]? = some info) (hprev : (samples code past).getLast? = some prev)
    (hev : onAxis code ev = true) :
    DeadzoneExact dev code info past prev ev ↔ info.Bounded ∧ Close prev ev.value := by
  have hlookup : (absThresholds dev).lookup code = some (absThreshold info) := by
    rw [lookup_absThresholds hstates hcodes, hinfo, Option.map_some]
  have hthreshold := isSome_absThresholdChecked_iff info
  have hactivity := isSome_isActivityChecked_iff (absThresholds dev) hprev hev
  constructor
  · intro h
    exact ⟨hthreshold.mp h.thresholdChecked, hactivity.mp h.activityChecked⟩
  · intro h
    obtain ⟨hbounded, hclose⟩ := h
    constructor
    case deadzone => rw [hlookup, Option.map_some, toInt_absThreshold hbounded]
    case decision => exact reported_iff_deadzone hlookup hbounded hprev hclose hev
    case thresholdChecked => exact hthreshold.mpr hbounded
    case activityChecked => exact hactivity.mpr hclose

end

/-- The stick of a gamepad is pushed to the end of its range. -/
theorem deadzone_exact_iff_push :
    DeadzoneExact pad 0 { minimum := -32768, maximum := 32767, flat := 128 }
      [⟨.absolute, 0, 12⟩, ⟨.other 0, 0, 0⟩] 12 ⟨.absolute, 0, 32767⟩ := by
  have hstates : pad.absState = some [{ minimum := -32768, maximum := 32767, flat := 128 }] := rfl
  exact (deadzone_exact_iff hstates (by decide) rfl rfl rfl).mpr ⟨⟨by decide, by decide⟩, by decide⟩

/-- A stick that uses the whole of `i32` is swung from end to end and then jitters. -/
theorem full_range_wraps :
    let info : AbsInfo := { minimum := -2147483648, maximum := 2147483647, flat := 16 }
    let dev : Device := { name := some "Stick", supportedEvents := [.absolute], absState := some [info] }
    let past : List InputEvent := [⟨.absolute, 0, -2147483648⟩]
    let swing : InputEvent := ⟨.absolute, 0, 2147483647⟩
    info.deadzone = 214748364 ∧ threshold (absThresholds dev) 0 = 16 ∧
      watchDevice dev (past ++ [swing, ⟨.absolute, 0, 2147483631⟩]) = [false, false, true] ∧
      absThresholdChecked info = none ∧
      ¬ DeadzoneExact dev 0 info past (-2147483648) swing := by
  intro info dev past swing
  have hpanic : absThresholdChecked info = none := by decide
  have hno : ¬ DeadzoneExact dev 0 info past (-2147483648) swing := by
    intro h
    have hsome := h.thresholdChecked
    simp [hpanic] at hsome
  exact ⟨by decide, by decide, by decide, hpanic, hno⟩

/-! ## the task of a device -/

/-- Consecutive samples of every axis are close. -/
def AllClose (evs : List InputEvent) : Prop :=
  History.Each (fun past ev => StaysClose (samples ev.code past).getLast? ev) evs

theorem watchFromChecked_concat (thresholds lastAbs : Axes) (past : List InputEvent) (ev : InputEvent) :
    watchFromChecked thresholds lastAbs (past ++ [ev]) =
      (watchFromChecked thresholds lastAbs past).bind fun bs =>
        (isActivityChecked ev thresholds
          (past.foldl (fun lastAbs ev => (isActivity ev thresholds lastAbs).2) lastAbs)).map
            fun r => bs ++ [r.1] := by
  induction past generalizing lastAbs with
  | nil =>
      simp only [List.nil_append, watchFromChecked, List.foldl_nil]
      cases isActivityChecked ev thresholds lastAbs <;> rfl
  | cons e past ih =>
      simp only [List.cons_append, watchFromChecked, List.foldl_cons, isActivityChecked_eq e]
      split
      · simp only [Option.bind_eq_bind, Option.bind_some, ih]
        cases watchFromChecked thresholds (isActivity e thresholds lastAbs).2 past with
        | none => rfl
        | some bs =>
            simp only [Option.bind_some]
            cases isActivityChecked ev thresholds _ <;> rfl
      · rfl

/-- With overflow checks the loop gets through a stream of close samples, and reports
what a release build does. -/
theorem watchFromChecked_eq_some_iff {thresholds : Axes} {evs : List InputEvent} {bs : List Bool} :
    watchFromChecked thresholds ∅ evs = some bs ↔ AllClose evs ∧ watch thresholds evs = bs := by
  induction evs using List.reverseRecOn generalizing bs with
  | nil => simp [watchFromChecked, AllClose, watch, watchFrom]
  | append_singleton past ev ih =>
      have hlast : past.foldl (fun lastAbs ev => (isActivity ev thresholds lastAbs).2) ∅ =
          lastAbsAfter thresholds past := rfl
      rw [watchFromChecked_concat, Option.bind_eq_some_iff, hlast, isActivityChecked_eq,
        lookup_lastAbsAfter, AllClose, History.each_concat, ← AllClose, watch_concat]
      constructor
      · rintro ⟨bs', hpast, hev⟩
        obtain ⟨hclose, rfl⟩ := ih.mp hpast
        split at hev
        · next hnow => exact ⟨⟨hclose, hnow⟩, Option.some.inj hev⟩
        · contradiction
      · rintro ⟨⟨hclose, hnow⟩, rfl⟩
        refine ⟨watch thresholds past, ih.mpr ⟨hclose, rfl⟩, ?_⟩
        rw [if_pos hnow]
        rfl

theorem absThresholdsChecked_eq_some_iff {dev : Device} {map : Axes} :
    absThresholdsChecked dev = some map ↔
      (∀ info ∈ dev.absState.getD [], info.Bounded) ∧ absThresholds dev = map := by
  have hloop (states : List (AbsInfo × Nat)) (init : Axes) :
      states.foldlM (fun map (info, code) => do
          return map.insert (.ofNat code) (← absThresholdChecked info)) init = some map ↔
        (∀ state ∈ states, state.1.Bounded) ∧
          states.foldl (fun map (info, code) => map.insert (.ofNat code) (absThreshold info)) init = map := by
    induction states generalizing init with
    | nil => simp
    | cons state states ih =>
        obtain ⟨info, code⟩ := state
        simp only [List.foldlM_cons, List.foldl_cons, absThresholdChecked_eq info]
        by_cases hbounded : info.Bounded
        · have hrest := ih (init.insert (.ofNat code) (absThreshold info))
          simpa [hbounded] using hrest
        · simp [hbounded]
  unfold absThresholdsChecked absThresholds
  cases dev.absState with
  | none => simp
  | some states =>
      have hall : (∀ info ∈ states, info.Bounded) ↔ ∀ state ∈ states.zipIdx, state.1.Bounded := by
        rw [← List.forall_mem_map (f := Prod.fst), List.zipIdx_map_fst]
      simp only [Option.getD_some, hloop, hall]

/-- **The task of a device** survives in a build with overflow checks exactly if every
axis is bounded and consecutive samples are close, and then reports what a release build
does. -/
theorem watchDeviceChecked_eq_some_iff {dev : Device} {evs : List InputEvent} {bs : List Bool} :
    watchDeviceChecked dev evs = some bs ↔
      ((∀ info ∈ dev.absState.getD [], info.Bounded) ∧ AllClose evs) ∧ watchDevice dev evs = bs := by
  unfold watchDeviceChecked watchDevice
  simp only [Option.bind_eq_bind, Option.bind_eq_some_iff, absThresholdsChecked_eq_some_iff,
    watchFromChecked_eq_some_iff]
  constructor
  · rintro ⟨map, ⟨hbounded, rfl⟩, hclose, hbs⟩
    exact ⟨⟨hbounded, hclose⟩, hbs⟩
  · rintro ⟨⟨hbounded, hclose⟩, hbs⟩
    exact ⟨absThresholds dev, ⟨hbounded, rfl⟩, hclose, hbs⟩

end Input

end GamescopeIdle
