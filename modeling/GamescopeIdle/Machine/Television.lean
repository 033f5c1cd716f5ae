import GamescopeIdle.Machine

/-!
# GamescopeIdle.Machine.Television

Whether the TV is left in standby, when the CEC device node may come and go.

The machine decides from its own state whether the TV has to be woken, and the
adapter skips the command when the node is absent at that instant, so the two can
drift apart: awake in its own view, the machine never tries again.  As long as
the machine is in step with the TV (`InStep`), input with the node present wakes
it; and exactly the runs in which no wake out of black meets an absent node stay
in step (`television_wakes_iff`).
-/

namespace GamescopeIdle

/-! ## what was issued to the TV -/

/-- A power command. -/
inductive Power where
  | standby
  | on
deriving DecidableEq, Repr

namespace Cec

/-- The power command among the arguments of a `cec-ctl` run (`-d dev` comes first). -/
def powerOf (args : List String) : Option Power :=
  if args.drop 2 = ["--to", "0", "--standby"] then some .standby
  else if args.drop 2 = ["--to", "0", "--image-view-on"] then some .on
  else none

/-- The last power command issued to the TV. -/
def lastPower (c : Cec) : Option Power := (c.ran.filterMap powerOf).getLast?

/-- The device node is there. -/
def nodePresent (pathExists : String → Bool) (c : Cec) : Bool :=
  (c.activeDevice pathExists).isSome

@[simp] theorem device_standby (pathExists : String → Bool) (c : Cec) :
    (c.standby pathExists).device = c.device := by
  simp only [standby]
  split <;> rfl

@[simp] theorem device_wake (pathExists : String → Bool) (c : Cec) :
    (c.wake pathExists).device = c.device := by
  simp only [wake]
  split <;> rfl

/-- A wake reaches the TV when the node is there. -/
theorem lastPower_wake (pathExists : String → Bool) (c : Cec) :
    (c.wake pathExists).lastPower =
      if c.nodePresent pathExists then some .on else c.lastPower := by
  have hsame : ({ c with calls := c.calls ++ [.wake] } : Cec).activeDevice pathExists =
      c.activeDevice pathExists := rfl
  cases hdev : c.activeDevice pathExists with
  | none =>
      simp only [wake, hsame.trans hdev, nodePresent, hdev]
      rfl
  | some dev =>
      simp only [wake, hsame.trans hdev, nodePresent, hdev]
      simp [lastPower, run, powerOf]

/-- Nothing was run without a device. -/
def NeedsDevice (c : Cec) : Prop := c.device = none → c.ran = []

theorem needsDevice_standby (pathExists : String → Bool) {c : Cec} (h : NeedsDevice c) :
    NeedsDevice (c.standby pathExists) := by
  intro hnone
  rw [device_standby] at hnone
  simp [standby, activeDevice, hnone, h hnone]

theorem needsDevice_wake (pathExists : String → Bool) {c : Cec} (h : NeedsDevice c) :
    NeedsDevice (c.wake pathExists) := by
  intro hnone
  rw [device_wake] at hnone
  simp [wake, activeDevice, hnone, h hnone]

/-- With its node there, a device that was ever used is present. -/
theorem nodePresent_of_lastPower {c : Cec} (h : NeedsDevice c) (hpower : c.lastPower ≠ none) :
    c.nodePresent (fun _ => true) = true := by
  cases hd : c.device with
  | none => simp [lastPower, h hd] at hpower
  | some d => simp [nodePresent, activeDevice, hd]

end Cec

namespace Machine

/-! ## the machine and the TV -/

/-- The TV was put into standby and not woken since. -/
def Asleep (m : Machine) : Prop := m.cec.lastPower = some .standby

instance (m : Machine) : Decidable (Asleep m) := inferInstanceAs (Decidable (_ = _))

/-- The machine knows when the TV is in standby. -/
def InStep (m : Machine) : Prop := Asleep m → m.state = .black

/-- After input, `SIGUSR2` or a `wake` that was handled with the device node
there, the TV is not in standby. -/
def WokenByInput (m : Machine) (e : Env × Event) : Prop :=
  e.2.wakes = true → m.cec.nodePresent e.1.pathExists = true → ¬ Asleep (m.handle e.1 e.2)

/-- Any input at all, with the device node there, would wake the TV. -/
def AnyInputWakes (m : Machine) : Prop := ∀ e, WokenByInput m e

/-- A wake out of black finds the device node there, if the TV is in standby. -/
def NodeAtWake (m : Machine) (e : Env × Event) : Prop :=
  e.2.wakes = true → m.state = .black → Asleep m → m.cec.nodePresent e.1.pathExists = true

/-- Whether the TV is in standby after a wake. -/
theorem asleep_wake {env : Env} {m : Machine} (h : InStep m) :
    Asleep (m.wake env) ↔ Asleep m ∧ m.cec.nodePresent env.pathExists = false := by
  unfold Asleep
  rw [cec_wake]
  by_cases hblack : m.state = .black
  · rw [if_pos hblack, Cec.lastPower_wake]
    cases m.cec.nodePresent env.pathExists <;> simp
  · rw [if_neg hblack]
    have hawake : ¬ m.cec.lastPower = some .standby := fun hasleep => hblack (h hasleep)
    exact iff_of_false hawake fun hboth => hawake hboth.1

/-- A waking event ends in `wake`, or finds the machine active. -/
theorem handle_of_wakes (env : Env) {e : Event} (h : e.wakes = true) (m : Machine) :
    (m.state = .active ∧ m.handle env e = m.touch env) ∨
      m.handle env e = (m.touch env).wake env := by
  generalize hm : m.handle env e = m'
  cases handle_outcome hm with
  | idle hwake => simp [h] at hwake
  | refreshed hact => exact .inl ⟨hact, rfl⟩
  | woken => exact .inr rfl
  | dimmed htime => simp [Event.wakes_of_isTimeout htime] at h
  | blackened hcase =>
      rcases hcase with ⟨htime, -⟩ | ⟨hblank, -⟩
      · simp [Event.wakes_of_isTimeout htime] at h
      · simp [Event.wakes_of_blanks hblank] at h

/-- In step, exactly the wakes that meet an absent node lose the TV. -/
theorem keeps_inStep_iff {m : Machine} {e : Env × Event} (h : InStep m) :
    automaton.Keeps InStep m e ↔ NodeAtWake m e := by
  obtain ⟨env, e⟩ := e
  constructor
  · intro hkeeps hwakes hblack hasleep
    have hstep : InStep (m.handle env e) := hkeeps _ rfl
    by_contra habsent
    cases handle_of_wakes env hwakes m with
    | inl hact => simp [hblack] at hact
    | inr hwoken =>
        have habsent : m.cec.nodePresent env.pathExists = false := by simpa using habsent
        have hleft : Asleep (m.handle env e) := by
          rw [hwoken]
          exact (asleep_wake (m := m.touch env) h).mpr ⟨hasleep, habsent⟩
        have hblack' := hstep hleft
        rw [hwoken, state_wake] at hblack'
        contradiction
  · intro hnode m' hm
    have hm := step_eq_some.mp hm
    cases handle_outcome hm with
    | idle => exact h
    | refreshed => exact h
    | woken hwakes =>
        intro hasleep
        obtain ⟨hbefore, habsent⟩ := (asleep_wake (m := m.touch env) h).mp hasleep
        have hpresent := hnode hwakes (h hbefore) hbefore
        rw [cec_touch] at habsent
        simp [habsent] at hpresent
    | dimmed _ hact =>
        intro hasleep
        have hblack := h hasleep
        simp [hact] at hblack
    | blackened => exact fun _ => state_enterBlack env m

/-- In step, input with the node there wakes the TV. -/
theorem anyInputWakes_of_inStep {m : Machine} (h : InStep m) : AnyInputWakes m := by
  rintro ⟨env, e⟩ hwakes hpresent hasleep
  cases handle_of_wakes env hwakes m with
  | inl hact =>
      obtain ⟨hact, htouch⟩ := hact
      rw [htouch] at hasleep
      have hblack := h hasleep
      simp [hact] at hblack
  | inr hwoken =>
      rw [hwoken] at hasleep
      obtain ⟨-, habsent⟩ := (asleep_wake (m := m.touch env) h).mp hasleep
      rw [cec_touch] at habsent
      simp [habsent] at hpresent

theorem needsDevice_of_reachable {m : Machine} (h : automaton.Reachable m) :
    m.cec.NeedsDevice := by
  refine h.invariant (I := fun m => m.cec.NeedsDevice) ?_ ?_
  · rintro _ ⟨cfg, overlay, pathExists, dev, lastActivity, dimDeadline, rfl⟩ _
    rfl
  · intro m e m' _ ih hm
    cases handle_outcome (step_eq_some.mp hm) with
    | idle => exact ih
    | refreshed => exact ih
    | dimmed => exact ih
    | blackened => exact Cec.needsDevice_standby _ ih
    | woken =>
        rw [cec_wake]
        split
        · exact Cec.needsDevice_wake _ ih
        · exact ih

/-- Only in step does any input wake the TV. -/
theorem inStep_of_anyInputWakes {m : Machine} (hreach : automaton.Reachable m)
    (h : AnyInputWakes m) : InStep m := by
  intro hasleep
  by_contra hblack
  have hpower : m.cec.lastPower ≠ none := by
    rw [hasleep]
    decide
  have hpresent := Cec.nodePresent_of_lastPower (needsDevice_of_reachable hreach) hpower
  have hcec (env : Env) : (m.handle env .activity).cec = m.cec := by
    cases handle_of_wakes env (e := .activity) rfl m with
    | inl hact => rw [hact.2, cec_touch]
    | inr hwoken => rw [hwoken, cec_wake, cec_touch, state_touch, if_neg hblack]
  have hleft : Asleep (m.handle ⟨0, fun _ => true⟩ .activity) := by
    rw [Asleep, hcec]
    exact hasleep
  exact h (⟨0, fun _ => true⟩, .activity) rfl hpresent hleft

theorem inStep_of_init {m : Machine} (h : automaton.init m) : InStep m := by
  obtain ⟨cfg, overlay, pathExists, dev, lastActivity, dimDeadline, rfl⟩ := h
  intro hasleep
  simp [Asleep, start, Cec.new, Cec.lastPower] at hasleep

/-- **Input wakes the TV**, in every run in which no wake out of black finds the
device node absent while the TV is in standby.  Those are exactly the runs in
whose every state any input with the node there would wake it. -/
theorem television_wakes_iff {m : Machine} {es : List (Env × Event)} (hinit : automaton.init m) :
    (automaton.Along NodeAtWake m es → automaton.Along WokenByInput m es) ∧
      (automaton.Along (automaton.Keeps AnyInputWakes) m es ↔ automaton.Along NodeAtWake m es) := by
  have hreach : automaton.Reachable m := .init hinit
  have hstep := inStep_of_init hinit
  constructor
  · intro hnode
    have hboth : automaton.Along (fun m e => InStep m ∧ NodeAtWake m e) m es :=
      hnode.and_invariant (fun s e t hs hP hst => (keeps_inStep_iff hs).mpr hP t hst) hstep
    exact hboth.mono fun s e hs => anyInputWakes_of_inStep hs.1 e
  · refine Automaton.along_keeps_iff ?_ hreach (anyInputWakes_of_inStep hstep)
    intro s e hs hany
    have hs' := inStep_of_anyInputWakes hs hany
    rw [← keeps_inStep_iff hs']
    constructor
    · intro hkeeps t ht
      exact inStep_of_anyInputWakes (hs.step ht) (hkeeps t ht)
    · intro hkeeps t ht
      exact anyInputWakes_of_inStep (hkeeps t ht)

/-- A machine with a CEC adapter. -/
def withCec : Machine := start { cec := .on } true { device := some "/dev/cec0" } 0 0

theorem init_withCec : automaton.init withCec :=
  ⟨{ cec := .on }, true, fun _ => true, [], 0, 0, rfl⟩

/-- The node stays: a forced blank and some input. -/
theorem television_wakes_iff_present :
    automaton.Along WokenByInput withCec
      [(⟨0, fun _ => true⟩, .sigusr1), (⟨5, fun _ => true⟩, .activity)] := by
  refine (television_wakes_iff init_withCec).1 ⟨?_, fun m hm => ⟨?_, fun _ _ => trivial⟩⟩
  · intro hwakes
    contradiction
  · intro _ _ _
    rw [← step_eq_some.mp hm]
    rfl

/-- The node is gone at the wake and back soon after: the machine is active, and
more input does not wake the TV. -/
theorem absent_node_leaves_standby :
    ∃ m, automaton.run withCec
        [(⟨0, fun _ => true⟩, .sigusr1), (⟨5, fun _ => false⟩, .activity)] = some m ∧
      m.state = .active ∧ ¬ WokenByInput m (⟨9, fun _ => true⟩, .activity) := by
  refine ⟨_, rfl, rfl, ?_⟩
  intro hwoken
  exact hwoken rfl rfl (by decide)

end Machine

end GamescopeIdle
