import GamescopeIdle.Input
import GamescopeIdle.Lib.History
import GamescopeIdle.Lib.Stretch

/-!
# GamescopeIdle.Input.Axes

What `is_activity` makes of an absolute axis.  The one table it keeps holds for
every axis the last sample of that axis (`lookup_lastAbsAfter`), so

* axes do not disturb each other, and noise inside the deadzone is never reported
  (`axes_are_independent_and_quiet`);
* a movement is measured from sample to sample, not from where it began: a push is
  noticed however it is cut into samples exactly when no stretch of small steps
  adds up to a deadzone (`smooth_pushes_count_iff`).
-/

namespace GamescopeIdle

namespace Input

/-! ## a stream and its axes -/

/-- The deadzone `is_activity` applies to an axis. -/
def threshold (thresholds : Axes) (code : UInt16) : Int32 := (thresholds.lookup code).getD 1

/-- The axis values remembered after a stream. -/
def lastAbsAfter (thresholds : Axes) (past : List InputEvent) : Axes :=
  past.foldl (fun lastAbs ev => (isActivity ev thresholds lastAbs).2) ∅

/-- Whether an event is reported as activity, after the events `past`. -/
def reported (thresholds : Axes) (past : List InputEvent) (ev : InputEvent) : Bool :=
  (isActivity ev thresholds (lastAbsAfter thresholds past)).1

/-- The event is a sample of the axis. -/
def onAxis (code : UInt16) (ev : InputEvent) : Bool := ev.eventType == .absolute && ev.code == code

/-- The projection of a stream on an axis. -/
def onlyAxis (code : UInt16) (evs : List InputEvent) : List InputEvent := evs.filter (onAxis code)

/-- The values of an axis in a stream, the oldest first. -/
def samples (code : UInt16) (evs : List InputEvent) : List Int32 := (onlyAxis code evs).map (·.value)

/-- Every event of a stream with the decision on it. -/
def decided (thresholds : Axes) (evs : List InputEvent) : List (InputEvent × Bool) :=
  evs.zip (watch thresholds evs)

/-- The decisions on the events of an axis. -/
def decisionsOn (thresholds : Axes) (code : UInt16) (evs : List InputEvent) : List Bool :=
  ((decided thresholds evs).filter (onAxis code ·.1)).map (·.2)

section
variable {thresholds : Axes} {code : UInt16} {past : List InputEvent} {ev : InputEvent}

/-! ## one more event -/

theorem watch_concat : watch thresholds (past ++ [ev]) = watch thresholds past ++ [reported thresholds past ev] := by
  have hfrom (lastAbs : Axes) :
      watchFrom thresholds lastAbs (past ++ [ev]) = watchFrom thresholds lastAbs past ++
        [(isActivity ev thresholds
          (past.foldl (fun lastAbs ev => (isActivity ev thresholds lastAbs).2) lastAbs)).1] := by
    induction past generalizing lastAbs with
    | nil => rfl
    | cons e past ih => simp [watchFrom, ih]
  exact hfrom ∅

theorem length_watch (evs : List InputEvent) : (watch thresholds evs).length = evs.length := by
  induction evs using List.reverseRecOn with
  | nil => rfl
  | append_singleton past ev ih => simp [watch_concat, ih]

theorem decided_concat :
    decided thresholds (past ++ [ev]) = decided thresholds past ++ [(ev, reported thresholds past ev)] := by
  have hlength : past.length = (watch thresholds past).length := (length_watch past).symm
  rw [decided, watch_concat, List.zip_append hlength]
  rfl

theorem decisionsOn_concat :
    decisionsOn thresholds code (past ++ [ev]) = decisionsOn thresholds code past ++
      if onAxis code ev = true then [reported thresholds past ev] else [] := by
  unfold decisionsOn
  rw [decided_concat]
  cases h : onAxis code ev <;> simp [h]

theorem onlyAxis_concat :
    onlyAxis code (past ++ [ev]) = onlyAxis code past ++ if onAxis code ev = true then [ev] else [] := by
  cases h : onAxis code ev <;> simp [onlyAxis, h]

theorem samples_concat :
    samples code (past ++ [ev]) = samples code past ++ if onAxis code ev = true then [ev.value] else [] := by
  rw [samples, onlyAxis_concat]
  cases h : onAxis code ev <;> simp [samples]

theorem samples_onlyAxis (evs : List InputEvent) : samples code (onlyAxis code evs) = samples code evs := by
  simp [samples, onlyAxis]

theorem onAxis_iff : onAxis code ev = true ↔ ev.eventType = .absolute ∧ ev.code = code := by
  simp [onAxis]

/-- The table holds the last sample of every axis. -/
theorem lookup_lastAbsAfter (past : List InputEvent) :
    (lastAbsAfter thresholds past).lookup code = (samples code past).getLast? := by
  induction past using List.reverseRecOn with
  | nil => rfl
  | append_singleton past ev ih =>
      have hstep : lastAbsAfter thresholds (past ++ [ev]) =
          (isActivity ev thresholds (lastAbsAfter thresholds past)).2 := by
        simp [lastAbsAfter]
      rw [hstep, samples_concat]
      cases htype : ev.eventType with
      | absolute =>
          by_cases hcode : ev.code = code
          · simp [isActivity, onAxis, htype, hcode]
          · have hne : ¬ code = ev.code := fun h => hcode h.symm
            simp [isActivity, onAxis, htype, hcode, hne, ih]
      | _ => simp [isActivity, onAxis, htype, ih]

/-- A sample is reported when it is a deadzone or more from the one before. -/
theorem reported_iff (h : onAxis code ev = true) :
    reported thresholds past ev = true ↔
      ∃ prev ∈ (samples code past).getLast?, threshold thresholds code ≤ (ev.value - prev).abs := by
  obtain ⟨htype, rfl⟩ := onAxis_iff.mp h
  simp only [reported, isActivity, htype, lookup_lastAbsAfter]
  cases (samples ev.code past).getLast? <;> simp [threshold]

theorem reported_congr {past' : List InputEvent} (h : onAxis code ev = true)
    (hsamples : samples code past = samples code past') :
    reported thresholds past ev = reported thresholds past' ev := by
  rw [Bool.eq_iff_iff, reported_iff h, reported_iff h, hsamples]

end

/-! ## independence and silence -/

/-- The decisions on an axis are those on its own events alone. -/
theorem decisionsOn_eq (thresholds : Axes) (code : UInt16) (evs : List InputEvent) :
    decisionsOn thresholds code evs = watch thresholds (onlyAxis code evs) := by
  induction evs using List.reverseRecOn with
  | nil => rfl
  | append_singleton past ev ih =>
      rw [decisionsOn_concat, onlyAxis_concat, ih]
      by_cases h : onAxis code ev = true
      · have hsame : reported thresholds past ev = reported thresholds (onlyAxis code past) ev :=
          reported_congr h (samples_onlyAxis past).symm
        rw [if_pos h, if_pos h, watch_concat, hsame]
      · rw [if_neg h, if_neg h, List.append_nil, List.append_nil]

/-- The values of an axis in the stream are less than 2^31 apart. -/
def Moderate (code : UInt16) (evs : List InputEvent) : Prop :=
  ∀ x ∈ samples code evs, ∀ y ∈ samples code evs, (y.toInt - x.toInt).natAbs < 2147483648

instance (code : UInt16) (evs : List InputEvent) : Decidable (Moderate code evs) :=
  have (x : Int32) : Decidable (∀ y ∈ samples code evs,
      (y.toInt - x.toInt).natAbs < 2147483648) := List.decidableBAll _ _
  List.decidableBAll _ _

/-- The values of an axis all lie in an interval narrower than its deadzone. -/
def Narrow (thresholds : Axes) (code : UInt16) (evs : List InputEvent) : Prop :=
  ∃ lo hi : Int, hi - lo < (threshold thresholds code).toInt ∧
    ∀ x ∈ samples code evs, lo ≤ x.toInt ∧ x.toInt ≤ hi

/-- For every sample whether it differs from the one before. -/
def changesFrom : Option Int32 → List Int32 → List Bool
  | _, [] => []
  | prev, v :: vs => prev.any (v != ·) :: changesFrom (some v) vs

/-- What an axis reports when every change of value counts; the first sample is none. -/
def changes (values : List Int32) : List Bool := changesFrom none values

theorem changes_concat (values : List Int32) (v : Int32) :
    changes (values ++ [v]) = changes values ++ [values.getLast?.any (v != ·)] := by
  have hfrom (prev : Option Int32) :
      changesFrom prev (values ++ [v]) =
        changesFrom prev values ++ [(values.getLast?.or prev).any (v != ·)] := by
    induction values generalizing prev with
    | nil => rfl
    | cons x xs ih =>
        have hlast : (xs.getLast?.or (some x)).or prev = xs.getLast?.or (some x) := by
          cases xs.getLast? <;> rfl
        have hcons : (x :: xs).getLast? = xs.getLast?.or (some x) := by
          rw [List.getLast?_cons]
          cases xs.getLast? <;> rfl
        rw [List.cons_append, changesFrom, changesFrom, ih, hcons, hlast]
        rfl
  simpa [changes] using hfrom none

section
variable {thresholds : Axes} {code : UInt16} {past : List InputEvent} {ev : InputEvent}

theorem mem_samples_concat {x : Int32} (h : x ∈ samples code past) : x ∈ samples code (past ++ [ev]) := by
  rw [samples_concat]
  exact List.mem_append_left _ h

theorem value_mem_samples (h : onAxis code ev = true) : ev.value ∈ samples code (past ++ [ev]) := by
  rw [samples_concat, if_pos h]
  simp

theorem Moderate.of_concat (h : Moderate code (past ++ [ev])) : Moderate code past :=
  fun x hx y hy => h x (mem_samples_concat hx) y (mem_samples_concat hy)

theorem Narrow.of_concat (h : Narrow thresholds code (past ++ [ev])) : Narrow thresholds code past := by
  obtain ⟨lo, hi, hwidth, hin⟩ := h
  exact ⟨lo, hi, hwidth, fun x hx => hin x (mem_samples_concat hx)⟩

/-- Between moderate values the distance `is_activity` computes is the true one. -/
theorem toInt_distance {prev : Int32} (h : onAxis code ev = true) (hmoderate : Moderate code (past ++ [ev]))
    (hprev : prev ∈ (samples code past).getLast?) :
    (ev.value - prev).abs.toInt = (ev.value.toInt - prev.toInt).natAbs :=
  I32.toInt_abs_sub
    (hmoderate prev (mem_samples_concat (List.mem_of_mem_getLast? hprev)) ev.value (value_mem_samples h))

theorem Narrow.moderate {evs : List InputEvent} (h : Narrow thresholds code evs) : Moderate code evs := by
  obtain ⟨lo, hi, hwidth, hin⟩ := h
  have hmax : (threshold thresholds code).toInt < 2147483648 := (I32.inRange_toInt _).2
  intro x hx y hy
  have hlox := hin x hx
  have hloy := hin y hy
  omega

/-- Values within the deadzone are not reported. -/
theorem not_reported_of_narrow (h : onAxis code ev = true)
    (hnarrow : Narrow thresholds code (past ++ [ev])) : reported thresholds past ev = false := by
  rw [← Bool.not_eq_true, reported_iff h]
  rintro ⟨prev, hprev, hfar⟩
  have hdistance := toInt_distance h hnarrow.moderate hprev
  have hle := Int32.le_iff_toInt_le.mp hfar
  obtain ⟨lo, hi, hwidth, hin⟩ := hnarrow
  have hvalue := hin ev.value (value_mem_samples h)
  have hprevious := hin prev (mem_samples_concat (List.mem_of_mem_getLast? hprev))
  omega

/-- With a deadzone of 1 exactly the changes of value are reported. -/
theorem reported_iff_changed (h : onAxis code ev = true) (hone : threshold thresholds code = 1)
    (hmoderate : Moderate code (past ++ [ev])) :
    reported thresholds past ev = (samples code past).getLast?.any (ev.value != ·) := by
  rw [Bool.eq_iff_iff, reported_iff h, hone, Option.any_eq_true]
  refine exists_congr fun prev => and_congr_right fun hprev => ?_
  have hdistance := toInt_distance h hmoderate hprev
  have hone' : (1 : Int32).toInt = 1 := by decide
  rw [Int32.le_iff_toInt_le, hdistance, hone', bne_iff_ne, ne_eq, ← Int32.toInt_inj]
  omega

end

theorem not_mem_decisionsOn_of_narrow {thresholds : Axes} {code : UInt16} {evs : List InputEvent}
    (h : Narrow thresholds code evs) : true ∉ decisionsOn thresholds code evs := by
  induction evs using List.reverseRecOn with
  | nil => simp [decisionsOn, decided]
  | append_singleton past ev ih =>
      rw [decisionsOn_concat]
      split
      · next hon =>
          have hquiet := not_reported_of_narrow hon h
          simp [ih h.of_concat, hquiet]
      · simpa using ih h.of_concat

theorem decisionsOn_eq_changes {thresholds : Axes} {code : UInt16} {evs : List InputEvent}
    (hone : threshold thresholds code = 1) (h : Moderate code evs) :
    decisionsOn thresholds code evs = changes (samples code evs) := by
  induction evs using List.reverseRecOn with
  | nil => rfl
  | append_singleton past ev ih =>
      rw [decisionsOn_concat, samples_concat, ih h.of_concat]
      split
      · next hon => rw [changes_concat, reported_iff_changed hon hone h]
      · rw [List.append_nil, List.append_nil]

/-- Nothing but noise: no keys or pointer motion, and every axis within its deadzone. -/
structure OnlyNoise (thresholds : Axes) (evs : List InputEvent) : Prop where
  noPresses : ∀ ev ∈ evs, ev.eventType ≠ .key ∧ ev.eventType ≠ .relative
  narrow : ∀ code, Narrow thresholds code evs

theorem not_mem_watch_of_onlyNoise {thresholds : Axes} {evs : List InputEvent}
    (h : OnlyNoise thresholds evs) : true ∉ watch thresholds evs := by
  induction evs using List.reverseRecOn with
  | nil => simp [watch, watchFrom]
  | append_singleton past ev ih =>
      have hpast : OnlyNoise thresholds past :=
        ⟨fun e he => h.noPresses e (by simp [he]), fun code => (h.narrow code).of_concat⟩
      have hquiet : reported thresholds past ev = false := by
        have hpress := h.noPresses ev (by simp)
        cases htype : ev.eventType with
        | absolute =>
            have hon : onAxis ev.code ev = true := onAxis_iff.mpr ⟨htype, rfl⟩
            exact not_reported_of_narrow hon (h.narrow ev.code)
        | key => exact absurd htype hpress.1
        | relative => exact absurd htype hpress.2
        | other ty => simp [reported, isActivity, htype]
      rw [watch_concat]
      simp [ih hpast, hquiet]

/-- **Axes are independent and noise is quiet**: the decisions on an axis are those
on its own events alone; noise within the deadzones reports nothing, on one axis or
on all of them at once; and with a deadzone of 1 every change of value is reported. -/
theorem axes_are_independent_and_quiet (thresholds : Axes) (code : UInt16) (evs : List InputEvent) :
    decisionsOn thresholds code evs = watch thresholds (onlyAxis code evs) ∧
      (∀ evs', onlyAxis code evs = onlyAxis code evs' →
        decisionsOn thresholds code evs = decisionsOn thresholds code evs') ∧
      (Narrow thresholds code evs → true ∉ decisionsOn thresholds code evs) ∧
      (OnlyNoise thresholds evs → true ∉ watch thresholds evs) ∧
      (threshold thresholds code = 1 → Moderate code evs →
        decisionsOn thresholds code evs = changes (samples code evs)) := by
  have halone := decisionsOn_eq thresholds code
  refine ⟨halone evs, ?_, not_mem_decisionsOn_of_narrow, not_mem_watch_of_onlyNoise,
    decisionsOn_eq_changes⟩
  intro evs' h
  rw [halone evs, halone evs', h]

/-- A stick and a hat: the stick jitters, and a hat press is reported. -/
theorem axes_are_independent_and_quiet_hat :
    let thresholds : Axes := (∅ : Axes).insert 0 10
    let evs : List InputEvent := [⟨.absolute, 0, 3⟩, ⟨.absolute, 16, 0⟩, ⟨.absolute, 0, 8⟩,
      ⟨.absolute, 16, 1⟩, ⟨.key, 304, 1⟩]
    true ∉ decisionsOn thresholds 0 evs ∧ decisionsOn thresholds 16 evs = [false, true] := by
  have hstick := axes_are_independent_and_quiet ((∅ : Axes).insert 0 10) 0
    [⟨.absolute, 0, 3⟩, ⟨.absolute, 16, 0⟩, ⟨.absolute, 0, 8⟩, ⟨.absolute, 16, 1⟩, ⟨.key, 304, 1⟩]
  have hhat := axes_are_independent_and_quiet ((∅ : Axes).insert 0 10) 16
    [⟨.absolute, 0, 3⟩, ⟨.absolute, 16, 0⟩, ⟨.absolute, 0, 8⟩, ⟨.absolute, 16, 1⟩, ⟨.key, 304, 1⟩]
  have hnarrow : Narrow ((∅ : Axes).insert 0 10) 0
      [⟨.absolute, 0, 3⟩, ⟨.absolute, 16, 0⟩, ⟨.absolute, 0, 8⟩, ⟨.absolute, 16, 1⟩, ⟨.key, 304, 1⟩] := by
    refine ⟨3, 8, by decide, ?_⟩
    intro x hx
    have hcase : x = 3 ∨ x = 8 := by simpa [samples, onlyAxis, onAxis] using hx
    rcases hcase with rfl | rfl <;> decide
  exact ⟨hstick.2.2.1 hnarrow, hhat.2.2.2.2 (by decide) (by decide)⟩

/-! ## smooth pushes -/

/-- The value of the axis at its most recent event reported as activity. -/
def lastReported (thresholds : Axes) (code : UInt16) (past : List InputEvent) : Option Int32 :=
  ((decided thresholds past).filter fun (ev, active) => onAxis code ev && active).getLast?.map
    (·.1.value)

/-- The reference of an axis: its value at its most recent event reported as activity,
or else at its first sample. -/
def reference (thresholds : Axes) (code : UInt16) (past : List InputEvent) : Option Int32 :=
  (lastReported thresholds code past).or (samples code past).head?

/-- Every sample at a deadzone or more from the reference is reported. -/
def PushesCount (thresholds : Axes) (code : UInt16) (evs : List InputEvent) : Prop :=
  History.Each (fun past ev => onAxis code ev = true → ∀ r ∈ reference thresholds code past,
    (threshold thresholds code).toInt ≤ (ev.value.toInt - r.toInt).natAbs →
      reported thresholds past ev = true) evs

/-- Two samples are less than a deadzone apart. -/
def near (deadzone a b : Int32) : Bool := decide ((b.toInt - a.toInt).natAbs < deadzone.toInt)

section
variable {thresholds : Axes} {code : UInt16} {past : List InputEvent} {ev : InputEvent}

theorem lastReported_concat :
    lastReported thresholds code (past ++ [ev]) =
      if (onAxis code ev && reported thresholds past ev) = true then some ev.value
      else lastReported thresholds code past := by
  unfold lastReported
  rw [decided_concat, List.filter_append]
  cases h : onAxis code ev && reported thresholds past ev <;> simp [h]

/-- A sample is reported when it is not the first and does not continue the last
stretch of small steps. -/
theorem reported_iff_of_moderate (h : onAxis code ev = true) (hmoderate : Moderate code (past ++ [ev])) :
    reported thresholds past ev = true ↔
      samples code past ≠ [] ∧
        ¬ Stretch.Continues (near (threshold thresholds code)) (samples code past) ev.value := by
  rw [reported_iff h]
  cases hlast : (samples code past).getLast? with
  | none =>
      have hnil : samples code past = [] := List.getLast?_eq_none_iff.mp hlast
      simp [hnil]
  | some prev =>
      have hne : samples code past ≠ [] := fun hnil => by simp [hnil] at hlast
      have hdistance := toInt_distance h hmoderate hlast
      have hjump : threshold thresholds code ≤ (ev.value - prev).abs ↔
          ¬ near (threshold thresholds code) prev ev.value = true := by
        rw [Int32.le_iff_toInt_le, hdistance, near, decide_eq_true_iff, Int.not_lt]
      simp [Stretch.Continues, hlast, hne, hjump]

/-- The reference is where the last stretch of small steps began. -/
theorem reference_eq_origin (h : Moderate code past) :
    reference thresholds code past =
      Stretch.origin (near (threshold thresholds code)) (samples code past) := by
  induction past using List.reverseRecOn with
  | nil => rfl
  | append_singleton past ev ih =>
      have hih := ih h.of_concat
      rw [reference] at hih ⊢
      rw [lastReported_concat, samples_concat]
      by_cases hon : onAxis code ev = true
      · have hreported : reported thresholds past ev = true ↔ samples code past ≠ [] ∧ _ :=
          reported_iff_of_moderate hon h
        rw [if_pos hon, Stretch.origin_concat]
        by_cases hempty : samples code past = []
        · -- the first sample: nothing was reported before it, and it begins the first stretch
          have hquiet : reported thresholds past ev ≠ true := fun h => (hreported.mp h).1 hempty
          have hnone : lastReported thresholds code past = none := by
            simpa [hempty, Stretch.origin] using hih
          simp [hquiet, hnone, hempty, Stretch.Continues]
        · have hhead : (samples code past ++ [ev.value]).head? = (samples code past).head? :=
            List.head?_append_of_ne_nil _ hempty
          by_cases hcont : Stretch.Continues (near (threshold thresholds code)) (samples code past) ev.value
          · have hquiet : reported thresholds past ev ≠ true := fun h => (hreported.mp h).2 hcont
            simp [hquiet, hcont, hhead, hih]
          · have hactive : reported thresholds past ev = true := hreported.mpr ⟨hempty, hcont⟩
            simp [hon, hactive, hcont]
      · simp [hon, hih]

/-- What a further sample asks for: the push counts when the sample is near the
reference or continues no stretch. -/
theorem push_counts_iff (hon : onAxis code ev = true) (h : Moderate code (past ++ [ev])) :
    (∀ r ∈ reference thresholds code past,
      (threshold thresholds code).toInt ≤ (ev.value.toInt - r.toInt).natAbs →
        reported thresholds past ev = true) ↔
      (Stretch.Continues (near (threshold thresholds code)) (samples code past) ev.value →
        ∀ r ∈ Stretch.origin (near (threshold thresholds code)) (samples code past),
          near (threshold thresholds code) r ev.value = true) := by
  rw [reference_eq_origin h.of_concat, reported_iff_of_moderate hon h]
  constructor
  · intro hcounts hcont r hr
    rw [near, decide_eq_true_iff, ← Int.not_le]
    intro hfar
    exact (hcounts r hr hfar).2 hcont
  · intro hnear r hr hfar
    have hne : samples code past ≠ [] := fun hnil => by simp [hnil, Stretch.origin] at hr
    refine ⟨hne, ?_⟩
    intro hcont
    have hclose := of_decide_eq_true (hnear hcont r hr)
    omega

end

/-- **Pushes count** exactly when no stretch of samples less than a deadzone apart
strays a deadzone or more from where it began. -/
theorem smooth_pushes_count_iff {thresholds : Axes} {code : UInt16} {evs : List InputEvent}
    (h : Moderate code evs) :
    PushesCount thresholds code evs ↔
      Stretch.Settled (near (threshold thresholds code)) (samples code evs) := by
  induction evs using List.reverseRecOn with
  | nil => simp [PushesCount, samples, onlyAxis]
  | append_singleton past ev ih =>
      have hpast : PushesCount thresholds code past ↔ _ := ih h.of_concat
      rw [PushesCount, History.each_concat, ← PushesCount, samples_concat, hpast]
      by_cases hon : onAxis code ev = true
      · rw [if_pos hon, Stretch.settled_concat, ← push_counts_iff hon h]
        exact and_congr_right fun _ => forall_prop_of_true hon
      · rw [if_neg hon, List.append_nil]
        exact and_iff_left fun hyes => absurd hyes hon

/-- A gamepad with one stick axis; its deadzone is 3276. -/
def pad : Device where
  name := some "Generic X-Box pad"
  supportedEvents := [.key, .absolute]
  absState := some [{ minimum := -32768, maximum := 32767, flat := 128 }]

/-- The stick is pushed to the end of its range at once, and let go. -/
theorem smooth_pushes_count_iff_flick :
    let evs : List InputEvent :=
      [⟨.absolute, 0, 0⟩, ⟨.other 0, 0, 0⟩, ⟨.absolute, 0, 32767⟩, ⟨.absolute, 0, 12⟩]
    PushesCount (absThresholds pad) 0 evs ↔
      Stretch.Settled (near (threshold (absThresholds pad) 0)) (samples 0 evs) :=
  smooth_pushes_count_iff (by decide)

/-- The stick is pushed to 6000 in two steps that are each shorter than its deadzone,
and nothing is reported. -/
theorem smooth_push_goes_unnoticed :
    let evs : List InputEvent := [⟨.absolute, 0, 0⟩, ⟨.absolute, 0, 3000⟩, ⟨.absolute, 0, 6000⟩]
    threshold (absThresholds pad) 0 = 3276 ∧ Moderate 0 evs ∧
      watchDevice pad evs = [false, false, false] ∧ ¬ PushesCount (absThresholds pad) 0 evs := by
  refine ⟨by decide, by decide, by decide, ?_⟩
  intro hcounts
  have hpush := hcounts [⟨.absolute, 0, 0⟩, ⟨.absolute, 0, 3000⟩] ⟨.absolute, 0, 6000⟩ [] rfl rfl 0
    (by decide) (by decide)
  exact absurd hpush (by decide)

end Input

end GamescopeIdle
