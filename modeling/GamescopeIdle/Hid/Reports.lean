import GamescopeIdle.Hid
import GamescopeIdle.Lib.I32

/-!
# GamescopeIdle.Hid.Reports

What a stream of reports of the Valve Steam Controller is noticed for.  A report is
accepted for its length and its first byte; of an accepted one nothing counts but the
digital buttons, compared with the last accepted report, and the deflection of the
sticks (`sendsAt_eq`).  So what is noticed depends on these alone, and no index is
ever out of range (`only_buttons_and_sticks_count`).
-/

namespace GamescopeIdle

namespace Hid

/-! ## what a report says -/

/-- The button word. -/
def buttons (report : List UInt8) : UInt32 :=
  u32FromLeBytes (report.getD 2 0) (report.getD 3 0) (report.getD 4 0) (report.getD 5 0)

/-- The axis at an offset. -/
def axis (report : List UInt8) (o : Nat) : Int16 := i16FromLeBytes (report.getD o 0) (report.getD (o + 1) 0)

/-- The button word outside the capacitive bits. -/
def digital (report : List UInt8) : UInt32 := buttons report &&& ~~~TRITON_CAPACITIVE

/-- The four stick axes. -/
def sticks (report : List UInt8) : List Int16 := [10, 12, 14, 16].map (axis report)

/-- Every axis is within the deadzone. -/
def Centred (report : List UInt8) : Prop :=
  ∀ value ∈ sticks report, -8000 ≤ value.toInt ∧ value.toInt ≤ 8000

instance : DecidablePred Centred := fun report => List.decidableBAll _ (sticks report)

/-- The report is long enough and has the right id. -/
def Accepted (report : List UInt8) : Prop := 18 ≤ report.length ∧ report[0]? = some 0x42

instance : DecidablePred Accepted := fun report =>
  inferInstanceAs (Decidable (18 ≤ report.length ∧ report[0]? = some 0x42))

/-- An axis is pushed past the deadzone. -/
def deflected (value : Int16) : Bool := decide (8000 < value.toInt.natAbs)

/-- The byte at a place in a range that lies within the report. -/
theorem getElem?_range {report : List UInt8} {o len i : Nat} (h : o + len ≤ report.length) (hi : i < len) :
    ((report.drop o).take len)[i]? = some (report.getD (o + i) 0) := by
  have hin : o + i < report.length := by omega
  rw [List.getElem?_take_of_lt hi, List.getElem?_drop, List.getD_eq_getElem?_getD,
    List.getElem?_eq_getElem hin]
  rfl

theorem maskedButtons_eq {report : List UInt8} (h : 18 ≤ report.length) :
    maskedButtons report VALVE_STEAM = some (some (digital report)) := by
  have hrange : 2 + 4 ≤ report.length := by omega
  have hbyte {i : Nat} (hi : i < 4) := getElem?_range hrange hi
  have hget : getRange report VALVE_STEAM.buttonsOffset 4 = some ((report.drop 2).take 4) :=
    if_pos hrange
  simp only [maskedButtons, hget]
  rw [hbyte (show 0 < 4 by decide), hbyte (show 1 < 4 by decide), hbyte (show 2 < 4 by decide),
    hbyte (show 3 < 4 by decide)]
  rfl

theorem axisDeflected_eq {report : List UInt8} {o : Nat} (h : o + 2 ≤ report.length) :
    axisDeflected report VALVE_STEAM o = some (deflected (axis report o)) := by
  have hbyte {i : Nat} (hi : i < 2) := getElem?_range h hi
  have hget : getRange report o 2 = some ((report.drop o).take 2) := if_pos h
  simp only [axisDeflected, hget]
  rw [hbyte (show 0 < 2 by decide), hbyte (show 1 < 2 by decide)]
  have hwide : (axis report o).toInt32.toInt = (axis report o).toInt := Int16.toInt_toInt32 _
  have hlow := (axis report o).le_toInt
  have habs : (axis report o).toInt32.abs.toInt = (axis report o).toInt.natAbs := by
    rw [I32.toInt_abs (by rw [hwide]; omega), hwide]
  have hdeadzone : VALVE_STEAM.stickDeadzone < (axis report o).toInt32.abs ↔
      8000 < (axis report o).toInt.natAbs := by
    have height : VALVE_STEAM.stickDeadzone.toInt = 8000 := by decide
    rw [Int32.lt_iff_toInt_lt, habs, height]
    omega
  have hdecided : decide (VALVE_STEAM.stickDeadzone < (axis report o).toInt32.abs) =
      deflected (axis report o) := by
    simp only [deflected, hdeadzone]
  exact congrArg some hdecided

/-- A stick is deflected when one of the four axes is. -/
theorem stickDeflected_eq {report : List UInt8} (h : 18 ≤ report.length) :
    stickDeflected report VALVE_STEAM = some ((sticks report).any deflected) := by
  have haxis {o : Nat} (ho : o + 2 ≤ 18) :
      axisDeflected report VALVE_STEAM o = some (deflected (axis report o)) :=
    axisDeflected_eq (by omega)
  have haxes : VALVE_STEAM.stickAxes = [10, 12, 14, 16] := rfl
  simp only [stickDeflected, haxes, List.anyM, haxis (show 10 + 2 ≤ 18 by decide),
    haxis (show 12 + 2 ≤ 18 by decide), haxis (show 14 + 2 ≤ 18 by decide),
    haxis (show 16 + 2 ≤ 18 by decide), sticks, List.map_cons, List.map_nil, List.any_cons, List.any_nil]
  cases deflected (axis report 10) <;> cases deflected (axis report 12) <;>
    cases deflected (axis report 14) <;> cases deflected (axis report 16) <;> rfl

theorem accepts_eq (report : List UInt8) :
    accepts VALVE_STEAM report = some (decide (Accepted report)) := by
  unfold accepts
  split
  · next hshort =>
      have hlen : report.length < 18 := hshort
      have hno : ¬ Accepted report := fun h => by have := h.1; omega
      rw [decide_eq_false hno]
  · next hlong =>
      have hlen : 18 ≤ report.length := Nat.not_lt.mp hlong
      obtain ⟨b, hb⟩ : ∃ b, report[0]? = some b := ⟨_, List.getElem?_eq_getElem (by omega)⟩
      have hid : Accepted report ↔ b = 0x42 := by simp [Accepted, hlen, hb]
      have hdecided : (b == 0x42) = decide (Accepted report) := by
        rw [Bool.eq_iff_iff, beq_iff_eq, decide_eq_true_iff, hid]
      rw [hb, ← hdecided]
      rfl

/-- What an accepted report is activity for, after the last one. -/
def counts (last : Option (List UInt8)) (report : List UInt8) : Bool :=
  last.any (digital report != digital ·) || (sticks report).any deflected

/-- The buffer `prev` for the last accepted report. -/
theorem isActivity_eq {last : Option (List UInt8)} {report : List UInt8} (hlast : ∀ p ∈ last, Accepted p)
    (h : Accepted report) :
    isActivity VALVE_STEAM (last.getD []) report = some (counts last report) := by
  have hsticks := stickDeflected_eq h.1
  cases last with
  | none => simp [isActivity, buttonChanged, hsticks, counts]
  | some p =>
      have hp : Accepted p := hlast p rfl
      have hne : p.isEmpty = false := by
        cases p with
        | nil => simp [Accepted] at hp
        | cons b bs => rfl
      have hsome : (some (digital report) != some (digital p)) = (digital report != digital p) := by
        rw [Bool.eq_iff_iff, bne_iff_ne, bne_iff_ne, ne_eq, Option.some.injEq]
      simp [isActivity, buttonChanged, hne, maskedButtons_eq h.1, maskedButtons_eq hp.1, hsticks, counts,
        hsome]

/-! ## positions in a stream -/

/-- The loop ends at this read. -/
def Read.ends : Read → Bool
  | .ok report => report.bytes.isEmpty
  | .error => true
  | .wouldBlock => false

/-- The report accepted at a position; none when the read there was none, was rejected, or
comes after the end of the loop. -/
def acceptedAt (reads : List Read) (i : Nat) : Option (List UInt8) :=
  match (reads.takeWhile (!·.ends))[i]? with
  | some (.ok report) => if Accepted report.bytes then some report.bytes else none
  | _ => none

/-- Whether the loop sends activity for the read at a position. -/
def sendsAt (reads : List Read) (i : Nat) : Bool :=
  ((readLoop VALVE_STEAM [] reads).getD []).getD i false

/-- The last value before a position, or else the one there was before all of them. -/
def lastBefore {α : Type} (start : Option α) (f : Nat → Option α) : Nat → Option α
  | 0 => start
  | i + 1 => (f i).or (lastBefore start f i)

theorem lastBefore_succ {α : Type} (start : Option α) (f : Nat → Option α) (i : Nat) :
    lastBefore start f (i + 1) = lastBefore ((f 0).or start) (fun j => f (j + 1)) i := by
  induction i with
  | zero => rfl
  | succ i ih => rw [lastBefore, ih, lastBefore]

theorem map_lastBefore {α β : Type} (g : α → β) (start : Option α) (f : Nat → Option α) (i : Nat) :
    (lastBefore start f i).map g = lastBefore (start.map g) (fun j => (f j).map g) i := by
  induction i with
  | zero => rfl
  | succ i ih => rw [lastBefore, lastBefore, ← ih, Option.map_or]

theorem acceptedAt_of_ends {read : Read} (h : read.ends = true) (reads : List Read) (i : Nat) :
    acceptedAt (read :: reads) i = none := by
  simp [acceptedAt, h]

theorem acceptedAt_succ {read : Read} (h : read.ends = false) (reads : List Read) (i : Nat) :
    acceptedAt (read :: reads) (i + 1) = acceptedAt reads i := by
  simp [acceptedAt, h]

/-- One turn of the loop, and the turns after it with what this one leaves behind. -/
theorem getD_turn {last : Option (List UInt8)} {read : Read} {reads : List Read}
    (hends : read.ends = false) {active : Bool} {sent : List Bool}
    (hnow : active = (acceptedAt (read :: reads) 0).any (counts last))
    (hrest : ∀ i, sent.getD i false = (acceptedAt reads i).any
      (counts (lastBefore ((acceptedAt (read :: reads) 0).or last) (acceptedAt reads) i))) (i : Nat) :
    (active :: sent).getD i false = (acceptedAt (read :: reads) i).any
      (counts (lastBefore last (acceptedAt (read :: reads)) i)) := by
  cases i with
  | zero => exact hnow
  | succ i =>
      have hshift := acceptedAt_succ hends reads
      rw [List.getD_cons_succ, hrest i, lastBefore_succ, hshift i]
      simp only [hshift]

/-- The loop is never out of range, and what it sends for an accepted report is what
that report counts for after the last one. -/
theorem readLoop_eq {last : Option (List UInt8)} (hlast : ∀ p ∈ last, Accepted p) (reads : List Read) :
    ∃ sent, readLoop VALVE_STEAM (last.getD []) reads = some sent ∧
      ∀ i, sent.getD i false =
        (acceptedAt reads i).any (counts (lastBefore last (acceptedAt reads) i)) := by
  induction reads generalizing last with
  | nil => exact ⟨[], rfl, fun i => by simp [acceptedAt]⟩
  | cons read reads ih =>
      have hover (hends : read.ends = true) (i : Nat) : ([] : List Bool).getD i false =
          (acceptedAt (read :: reads) i).any (counts (lastBefore last (acceptedAt (read :: reads)) i)) := by
        rw [acceptedAt_of_ends hends]
        rfl
      cases read with
      | error => exact ⟨[], rfl, hover rfl⟩
      | wouldBlock =>
          have hnow : acceptedAt (.wouldBlock :: reads) 0 = none := rfl
          obtain ⟨sent, hsent, hrest⟩ := ih hlast
          refine ⟨false :: sent, by rw [readLoop, hsent]; rfl, getD_turn rfl (by rw [hnow]; rfl) ?_⟩
          rw [hnow]
          exact hrest
      | ok report =>
          by_cases hempty : report.bytes.isEmpty = true
          · exact ⟨[], by rw [readLoop, if_pos hempty], hover hempty⟩
          · have hends : (Read.ok report).ends = false := Bool.eq_false_iff.mpr hempty
            by_cases haccepted : Accepted report.bytes
            · have hnow : acceptedAt (.ok report :: reads) 0 = some report.bytes := by
                simp [acceptedAt, hends, haccepted]
              have hkept : ∀ p ∈ some report.bytes, Accepted p := by simpa using haccepted
              obtain ⟨sent, hsent, hrest⟩ := ih hkept
              refine ⟨counts last report.bytes :: sent, ?_, getD_turn hends (by rw [hnow]; rfl) ?_⟩
              · rw [readLoop, if_neg hempty, accepts_eq, decide_eq_true haccepted]
                simp only [isActivity_eq hlast haccepted]
                exact congrArg _ hsent
              · rw [hnow]
                exact hrest
            · have hnow : acceptedAt (.ok report :: reads) 0 = none := by
                simp [acceptedAt, hends, haccepted]
              obtain ⟨sent, hsent, hrest⟩ := ih hlast
              refine ⟨false :: sent, ?_, getD_turn hends (by rw [hnow]; rfl) ?_⟩
              · rw [readLoop, if_neg hempty, accepts_eq, decide_eq_false haccepted]
                simp only [hsent, Option.map_some]
              · rw [hnow]
                exact hrest

/-- The loop starts without a last report. -/
theorem readLoop_start (reads : List Read) :
    ∃ sent, readLoop VALVE_STEAM [] reads = some sent ∧
      ∀ i, sent.getD i false =
        (acceptedAt reads i).any (counts (lastBefore none (acceptedAt reads) i)) := by
  have hnone : ∀ p ∈ (none : Option (List UInt8)), Accepted p := nofun
  exact readLoop_eq hnone reads

/-- What is sent at a position is what the report accepted there counts for after the
last accepted one. -/
theorem sendsAt_eq (reads : List Read) (i : Nat) :
    sendsAt reads i = (acceptedAt reads i).any (counts (lastBefore none (acceptedAt reads) i)) := by
  obtain ⟨sent, hsent, hat⟩ := readLoop_start reads
  rw [sendsAt, hsent]
  exact hat i

/-- What counts in a report. -/
def essence (report : List UInt8) : UInt32 × List Int16 := (digital report, sticks report)

/-- `counts`, of what counts. -/
theorem counts_eq (last : Option (List UInt8)) (report : List UInt8) :
    counts last report =
      ((last.map essence).any ((essence report).1 != ·.1) || (essence report).2.any deflected) := by
  rw [Option.any_map]
  rfl

/-- Two streams whose accepted reports say the same are noticed at the same positions. -/
theorem sendsAt_congr {reads reads' : List Read}
    (h : ∀ i, (acceptedAt reads i).map essence = (acceptedAt reads' i).map essence) (i : Nat) :
    sendsAt reads i = sendsAt reads' i := by
  have hessence (reads : List Read) : sendsAt reads i =
      ((acceptedAt reads i).map essence).any fun now =>
        (lastBefore none (fun j => (acceptedAt reads j).map essence) i).any (now.1 != ·.1) ||
          now.2.any deflected := by
    have hlast := map_lastBefore essence none (acceptedAt reads) i
    rw [sendsAt_eq, Option.any_map, ← Option.map_none (f := essence), ← hlast]
    exact congrArg (fun p => (acceptedAt reads i).any p) (funext fun r => counts_eq _ r)
  have hsame : (fun j => (acceptedAt reads j).map essence) = fun j => (acceptedAt reads' j).map essence :=
    funext h
  rw [hessence reads, hessence reads', h i, hsame]

theorem lastBefore_of_gap {α : Type} {f : Nat → Option α} {i j : Nat} {p : α} (hij : i < j)
    (hp : f i = some p) (hgap : ∀ k, i < k → k < j → f k = none) : lastBefore none f j = some p := by
  induction j with
  | zero => omega
  | succ j ih =>
      by_cases hlast : i = j
      · subst hlast
        rw [lastBefore, hp, Option.some_or]
      · have hbefore : i < j := by omega
        have hnone : f j = none := hgap j hbefore (Nat.lt_succ_self j)
        rw [lastBefore, hnone, Option.none_or]
        exact ih hbefore fun k hik hkj => hgap k hik (by omega)

theorem exists_of_lastBefore {α : Type} {f : Nat → Option α} {j : Nat} {p : α}
    (h : lastBefore none f j = some p) : ∃ i, f i = some p := by
  induction j with
  | zero => contradiction
  | succ j ih =>
      rw [lastBefore, Option.or_eq_some_iff] at h
      cases h with
      | inl hnow => exact ⟨j, hnow⟩
      | inr hbefore => exact ih hbefore.2

/-- An accepted report with other digital buttons than the accepted one before it is
noticed, whatever lies between. -/
theorem sends_of_change {reads : List Read} {i j : Nat} {p r : List UInt8} (hij : i < j)
    (hp : acceptedAt reads i = some p) (hr : acceptedAt reads j = some r)
    (hgap : ∀ k, i < k → k < j → acceptedAt reads k = none) (hchange : digital p ≠ digital r) :
    sendsAt reads j = true := by
  have hne : (digital r != digital p) = true := bne_iff_ne.mpr hchange.symm
  rw [sendsAt_eq, hr, lastBefore_of_gap hij hp hgap]
  simp [counts, hne]

/-- A controller at rest, or just held, is not noticed. -/
theorem not_sends_of_rest {reads : List Read}
    (hbuttons : ∀ i j p r, acceptedAt reads i = some p → acceptedAt reads j = some r →
      digital p = digital r)
    (hsticks : ∀ i r, acceptedAt reads i = some r → Centred r) (j : Nat) :
    sendsAt reads j = false := by
  rw [sendsAt_eq]
  cases hr : acceptedAt reads j with
  | none => rfl
  | some r =>
      have hcentred : (sticks r).any deflected = false := by
        rw [List.any_eq_false]
        intro value hvalue
        have hbounds := hsticks j r hr value hvalue
        have hsmall : ¬ 8000 < value.toInt.natAbs := by omega
        simpa [deflected] using hsmall
      have hunchanged : (lastBefore none (acceptedAt reads) j).any (digital r != digital ·) = false := by
        rw [Option.any_eq_false]
        intro p hp
        obtain ⟨i, hi⟩ := exists_of_lastBefore hp
        simp [hbuttons i j p r hi hr]
      simp [counts, hcentred, hunchanged]

/-- **Only digital buttons and sticks count**, and no button change is missed. -/
theorem only_buttons_and_sticks_count (reads : List Read) :
    (readLoop VALVE_STEAM [] reads).isSome = true ∧
      (∀ reads', (∀ i, (acceptedAt reads i).map essence = (acceptedAt reads' i).map essence) →
        ∀ i, sendsAt reads i = sendsAt reads' i) ∧
      (∀ i j p r, i < j → acceptedAt reads i = some p → acceptedAt reads j = some r →
        (∀ k, i < k → k < j → acceptedAt reads k = none) → digital p ≠ digital r →
          sendsAt reads j = true) ∧
      ((∀ i j p r, acceptedAt reads i = some p → acceptedAt reads j = some r → digital p = digital r) →
        (∀ i r, acceptedAt reads i = some r → Centred r) → ∀ i, sendsAt reads i = false) := by
  obtain ⟨sent, hsent, -⟩ := readLoop_start reads
  exact ⟨by rw [hsent]; rfl, fun reads' h => sendsAt_congr h,
    fun i j p r hij hp hr hgap hchange => sends_of_change hij hp hr hgap hchange, not_sends_of_rest⟩

theorem mem_of_acceptedAt {reads : List Read} {i : Nat} {r : List UInt8} (h : acceptedAt reads i = some r) :
    ∃ report, .ok report ∈ reads ∧ report.bytes = r := by
  unfold acceptedAt at h
  split at h
  · next report hread =>
      have hmem : Read.ok report ∈ reads :=
        (List.takeWhile_sublist _).subset (List.mem_of_getElem? hread)
      rw [Option.ite_none_right_eq_some, Option.some.injEq] at h
      exact ⟨report, hmem, h.2⟩
  · contradiction

/-- A Triton report with centred sticks, by its sequence number and button bytes. -/
def triton (seq b₀ b₁ b₂ b₃ : UInt8) : Report where
  bytes := [0x42, seq, b₀, b₁, b₂, b₃] ++ List.replicate 12 0
  fits := by simp

/-- A press is noticed over a foreign report, with any sequence numbers, and a hand
that only touches the pad is not. -/
theorem only_buttons_and_sticks_count_press :
    let press : List Read := [.ok (triton 1 0 0 0 0), .ok ⟨[0x45, 7], by decide⟩, .ok (triton 2 1 0 0 0)]
    let later : List Read := [.ok (triton 8 0 0 0 0), .wouldBlock, .ok (triton 9 1 0 0x20 0)]
    let held : List Read := [.ok (triton 1 0 0 0 0), .ok (triton 2 0 0 0x20 0x10)]
    sendsAt press 2 = true ∧ (∀ i, sendsAt press i = sendsAt later i) ∧ ∀ i, sendsAt held i = false := by
  intro press later held
  have hpress := only_buttons_and_sticks_count press
  have hheld := only_buttons_and_sticks_count held
  have hessence : ∀ i, (acceptedAt press i).map essence = (acceptedAt later i).map essence := by
    intro i
    match i with
    | 0 => decide
    | 1 => decide
    | 2 => decide
    | i + 3 => rfl
  have hrest : ∀ i r, acceptedAt held i = some r → digital r = 0 ∧ Centred r := by
    intro i r hr
    obtain ⟨report, hreport, rfl⟩ := mem_of_acceptedAt hr
    have hcase : report = triton 1 0 0 0 0 ∨ report = triton 2 0 0 0x20 0x10 := by simpa [held] using hreport
    rcases hcase with rfl | rfl <;> decide
  refine ⟨hpress.2.2.1 0 2 _ _ (by decide) rfl rfl ?_ (by decide), hpress.2.1 later hessence,
    hheld.2.2.2 ?_ fun i r hr => (hrest i r hr).2⟩
  · intro k hk hk'
    obtain rfl : k = 1 := by omega
    rfl
  · intro i j p r hp hr
    rw [(hrest i p hp).1, (hrest j r hr).1]

end Hid

end GamescopeIdle
