import GamescopeIdle.Config
import GamescopeIdle.Hid
import GamescopeIdle.Input.Rescan

/-!
# GamescopeIdle.Hid.Rescan

The rescan loop of `hid.rs` with its watchers.  It lists the hidraw nodes once a pass
and then deals with one path after the other, whatever has become of the node; a
path that matches no profile is passed over, and looked at again by the next pass.  A
watcher may end at any time and in any of the ways of `read_loop` (`ReadEnd`).

`watchers_are_registered` is the law that this loop and the one of `input.rs` keep.
-/

namespace GamescopeIdle

namespace Hid

/-- `hidraw_nodes`, given the names of the entries of `/dev`. -/
def hidrawNodes (entries : List String) : List String :=
  ((entries.filter (·.startsWith "hidraw")).map ("/dev/" ++ ·)).mergeSort (fun a b => decide (a ≤ b))

/-- The watched set with the watchers, and the rescan loop. -/
structure Scan where
  registry : Registry String Unit Profile
  /-- The paths of the pass that have not been taken up; none while the loop sleeps. -/
  pass : Option (List String)

/-- How `read_loop` comes to its end. -/
inductive ReadEnd where
  | openFailed
  | asyncFdFailed
  | readableFailed
  | eof
  | readFailed

/-- The loop makes a step, or a watcher ends; what the loop reads is in the label. -/
inductive ScanLabel where
  | list (entries : List String)
  | next
  | test
  | profile (uevent : Option String)
  | start
  | sleep
  | exit (why : ReadEnd) (i : Nat)

namespace Scan

/-- The loop has not begun. -/
def fresh : Scan := { registry := .empty, pass := none }

/-- A step of the registry. -/
def register (s : Scan) (l : Registry.Label String Unit Profile) : Option Scan :=
  (s.registry.step l).map fun r => { s with registry := r }

/-- What `watch_hidraw` does when `read_loop` has returned. -/
def watcherEnds (s : Scan) (i : Nat) : ReadEnd → Option Scan
  | .openFailed => s.register (.exit i)
  | .asyncFdFailed => s.register (.exit i)
  | .readableFailed => s.register (.exit i)
  | .eof => s.register (.exit i) -- not an error, and removed all the same
  | .readFailed => s.register (.exit i)

/-- A step of the loop of `spawn`, or the end of a watcher. -/
def scan (s : Scan) : ScanLabel → Option Scan
  | .list entries =>
      match s.pass with
      | none => some { s with pass := some (hidrawNodes entries) }
      | some _ => none
  | .next =>
      match s.pass with
      | some (path :: rest) =>
          (s.registry.step (.take path ())).map fun r => { registry := r, pass := some rest }
      | _ => none
  | .test => s.register .test
  | .profile uevent =>
      match profileFor uevent with
      | some profile => s.register (.insert profile)
      | none => s.register .skip
  | .start => s.register .start
  | .sleep =>
      match s.pass, s.registry.scanner with
      | some [], .idle => some { s with pass := none }
      | _, _ => none
  | .exit why i => s.watcherEnds i why

/-- `spawn` starts the loop only if the configuration asks for it. -/
def step (cfg : Config) (s : Scan) (l : ScanLabel) : Option Scan :=
  if cfg.watchHidraw then s.scan l else none

end Scan

/-- The rescan loop and its watchers. -/
def rescan (cfg : Config) : Automaton Scan ScanLabel where
  init s := s = .fresh
  step := Scan.step cfg

namespace Scan

/-- However `read_loop` ends, the path is removed. -/
theorem watcherEnds_eq_register (s : Scan) (why : ReadEnd) (i : Nat) :
    s.watcherEnds i why = s.register (.exit i) := by
  cases why with
  | openFailed => rfl
  | asyncFdFailed => rfl
  | readableFailed => rfl
  | eof => rfl
  | readFailed => rfl

theorem scan_of_step {cfg : Config} {s s' : Scan} {l : ScanLabel} (h : s.step cfg l = some s') :
    s.scan l = some s' := by
  rw [step, Option.ite_none_right_eq_some] at h
  exact h.2

/-- A step of the loop is a step of the registry, but none that records, or leaves it
alone. -/
theorem registry_step {cfg : Config} {s s' : Scan} {l : ScanLabel} (h : s.step cfg l = some s') :
    s'.registry = s.registry ∨ ∃ l', l' ≠ .record ∧ s.registry.step l' = some s'.registry := by
  have hregister {l' : Registry.Label String Unit Profile} (h : s.register l' = some s')
      (hl' : l' ≠ .record) :
      s'.registry = s.registry ∨ ∃ l', l' ≠ .record ∧ s.registry.step l' = some s'.registry := by
    obtain ⟨r, hr, rfl⟩ := Option.map_eq_some_iff.mp h
    exact .inr ⟨l', hl', hr⟩
  replace h := scan_of_step h
  cases l with
  | list entries =>
      cases hpass : s.pass with
      | none =>
          simp only [scan, hpass, Option.some.injEq] at h
          exact .inl (h ▸ rfl)
      | some paths => simp [scan, hpass] at h
  | next =>
      cases hpass : s.pass with
      | none => simp [scan, hpass] at h
      | some paths =>
          cases paths with
          | nil => simp [scan, hpass] at h
          | cons path rest =>
              simp only [scan, hpass] at h
              obtain ⟨r, hr, rfl⟩ := Option.map_eq_some_iff.mp h
              exact .inr ⟨.take path (), nofun, hr⟩
  | test => exact hregister (show s.register .test = some s' from h) nofun
  | profile uevent =>
      cases hprofile : profileFor uevent with
      | none =>
          simp only [scan, hprofile] at h
          exact hregister h nofun
      | some profile =>
          simp only [scan, hprofile] at h
          exact hregister h nofun
  | start => exact hregister h nofun
  | sleep =>
      cases hpass : s.pass with
      | none => simp [scan, hpass] at h
      | some paths =>
          cases paths with
          | cons path rest => simp [scan, hpass] at h
          | nil =>
              cases hscanner : s.registry.scanner with
              | idle =>
                  simp only [scan, hpass, hscanner, Option.some.injEq] at h
                  exact .inl (h ▸ rfl)
              | _ => simp [scan, hpass, hscanner] at h
  | exit why i =>
      rw [scan, watcherEnds_eq_register] at h
      exact hregister h nofun

/-- The watched set and the watchers of the rescan loop are a registry. -/
theorem registry_of_reachable {cfg : Config} {s : Scan} (hs : (rescan cfg).Reachable s) :
    Registry.automaton.Reachable s.registry := by
  refine hs.simulate Scan.registry ?_ ?_
  · rintro s rfl
    rfl
  · intro s l s' h
    cases registry_step h with
    | inl hsame => exact .inl hsame
    | inr hmoved =>
        obtain ⟨l', -, hl'⟩ := hmoved
        exact .inr ⟨l', hl'⟩

/-- Nothing is ever recorded without a watcher. -/
theorem recorded_eq_empty {cfg : Config} {s : Scan} (hs : (rescan cfg).Reachable s) :
    s.registry.recorded = ∅ := by
  refine hs.invariant (I := fun s => s.registry.recorded = ∅) ?_ ?_
  · rintro s rfl
    rfl
  · intro s l s' _ hempty h
    cases registry_step h with
    | inl hsame => rw [hsame, hempty]
    | inr hmoved =>
        obtain ⟨l', hl', hstep⟩ := hmoved
        refine Finset.eq_empty_of_forall_notMem fun path hpath => ?_
        cases Registry.recorded_of_step hstep hpath with
        | inl hold => simp [hempty] at hold
        | inr hnew => exact hl' hnew.1

theorem step_exit {cfg : Config} {s s' : Scan} {why : ReadEnd} {i : Nat}
    (h : s.step cfg (.exit why i) = some s') : s.registry.step (.exit i) = some s'.registry := by
  replace h := scan_of_step h
  rw [scan, watcherEnds_eq_register] at h
  obtain ⟨r, hr, rfl⟩ := Option.map_eq_some_iff.mp h
  exact hr

end Scan

end Hid

/-! ## both loops -/

/-- **Watchers are registered**: of both loops, in every reachable state, each path has
at most one watcher, the watched paths are those of the watchers and of the one that is
about to be started, but for what `input.rs` has recorded of blocklisted devices; and
the end of a watcher, whichever it is, leaves its path free. -/
theorem watchers_are_registered (cfg : Config) :
    (∀ h, (Input.rescan cfg).Reachable h →
      h.registry.Registered ∧
      (∀ l h', h.step cfg l = some h' → ∀ path ∈ h'.registry.recorded, path ∈ h.registry.recorded ∨
        ∃ n, h.registry.scanner = .tested path n ∧ Input.inspect cfg path n.dev = .block) ∧
      ∀ why i path n h', h.registry.tasks[i]? = some (path, n) →
        h.step cfg (.exit why i) = some h' →
          path ∉ h'.registry.watched ∧ ¬ h'.registry.HasTask path) ∧
    ∀ s, (Hid.rescan cfg).Reachable s →
      s.registry.Registered ∧ s.registry.recorded = ∅ ∧
      ∀ why i path profile s', s.registry.tasks[i]? = some (path, profile) →
        s.step cfg (.exit why i) = some s' →
          path ∉ s'.registry.watched ∧ ¬ s'.registry.HasTask path := by
  constructor
  · intro h hh
    have hconsistent := Registry.consistent_of_reachable (Input.Hotplug.registry_of_reachable hh)
    refine ⟨hconsistent.toRegistered, fun l h' => Input.Hotplug.recorded_of_step, ?_⟩
    intro why i path n h' htask hexit
    exact Registry.free_after_exit hconsistent htask (Input.Hotplug.step_exit hexit)
  · intro s hs
    have hconsistent := Registry.consistent_of_reachable (Hid.Scan.registry_of_reachable hs)
    refine ⟨hconsistent.toRegistered, Hid.Scan.recorded_eq_empty hs, ?_⟩
    intro why i path profile s' htask hexit
    exact Registry.free_after_exit hconsistent htask (Hid.Scan.step_exit hexit)

/-- In each loop a watcher ends, and its path is attached again. -/
theorem watchers_are_registered_plugged :
    let path := "/dev/input/event5"
    let keyboard : Input.Device := { name := none, supportedEvents := [.key], absState := none }
    let attach : List Input.RescanLabel := [.wake, .yield path, .test, .inspect, .start]
    let hidraw := "/dev/hidraw3"
    let pass : List Hid.ScanLabel := [.list ["null", "hidraw3"], .next, .test,
      .profile (some "HID_ID=0003:000028DE:00001304"), .start]
    (∃ h h' t, (Input.rescan default).run .fresh (.arrive path keyboard :: attach) = some h ∧
      h.step default (.exit .streamEnded 0) = some h' ∧ path ∉ h'.registry.watched ∧
      (Input.rescan default).run h' (.sleep :: attach) = some t ∧
      t.registry.tasks = [(path, ⟨0, keyboard⟩)] ∧ t.registry.Registered) ∧
    ∃ s s' t, (Hid.rescan default).run .fresh pass = some s ∧
      s.step default (.exit .eof 0) = some s' ∧ hidraw ∉ s'.registry.watched ∧
      (Hid.rescan default).run s' (.sleep :: pass) = some t ∧
      t.registry.tasks = [(hidraw, Hid.VALVE_STEAM)] ∧ t.registry.Registered := by
  intro path keyboard attach hidraw pass
  obtain ⟨hinput, hhid⟩ := watchers_are_registered default
  constructor
  · have hchecked : ((Input.rescan default).run .fresh (.arrive path keyboard :: attach)).any
        (fun h => h.registry.tasks[0]? == some (path, ⟨0, keyboard⟩) &&
          (h.step default (.exit .streamEnded 0)).any fun h' =>
            ((Input.rescan default).run h' (.sleep :: attach)).any fun t =>
              decide (t.registry.tasks = [(path, ⟨0, keyboard⟩)])) = true := by decide +kernel
    obtain ⟨h, hrun, hchecked⟩ := (Option.any_eq_true _ _).mp hchecked
    obtain ⟨htask, hchecked⟩ := Bool.and_eq_true_iff.mp hchecked
    obtain ⟨h', hexit, hchecked⟩ := (Option.any_eq_true _ _).mp hchecked
    obtain ⟨t, hrun', htasks⟩ := (Option.any_eq_true _ _).mp hchecked
    have hh : (Input.rescan default).Reachable h := ⟨.fresh, _, rfl, hrun⟩
    have hstep : (Input.rescan default).step h (.exit .streamEnded 0) = some h' := hexit
    have ht := (hh.step hstep).run hrun'
    have hfree := (hinput h hh).2.2 .streamEnded 0 path _ h' (beq_iff_eq.mp htask) hexit
    exact ⟨h, h', t, hrun, hexit, hfree.1, hrun', of_decide_eq_true htasks, (hinput t ht).1⟩
  · have hchecked : ((Hid.rescan default).run .fresh pass).any
        (fun s => s.registry.tasks[0]? == some (hidraw, Hid.VALVE_STEAM) &&
          (s.step default (.exit .eof 0)).any fun s' =>
            ((Hid.rescan default).run s' (.sleep :: pass)).any fun t =>
              decide (t.registry.tasks = [(hidraw, Hid.VALVE_STEAM)])) = true := by decide +kernel
    obtain ⟨s, hrun, hchecked⟩ := (Option.any_eq_true _ _).mp hchecked
    obtain ⟨htask, hchecked⟩ := Bool.and_eq_true_iff.mp hchecked
    obtain ⟨s', hexit, hchecked⟩ := (Option.any_eq_true _ _).mp hchecked
    obtain ⟨t, hrun', htasks⟩ := (Option.any_eq_true _ _).mp hchecked
    have hs : (Hid.rescan default).Reachable s := ⟨.fresh, _, rfl, hrun⟩
    have hstep : (Hid.rescan default).step s (.exit .eof 0) = some s' := hexit
    have ht := (hs.step hstep).run hrun'
    have hfree := (hhid s hs).2.2 .eof 0 hidraw _ s' (beq_iff_eq.mp htask) hexit
    exact ⟨s, s', t, hrun, hexit, hfree.1, hrun', of_decide_eq_true htasks, (hhid t ht).1⟩

end GamescopeIdle
