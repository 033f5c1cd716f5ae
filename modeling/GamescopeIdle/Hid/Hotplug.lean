import GamescopeIdle.Hid.Rescan

/-!
# GamescopeIdle.Hid.Hotplug

Whether a pass of the loop of `hid.rs` leaves every known controller with a watcher,
over a `/dev` whose hidraw nodes come and go.

Unlike the loop of `input.rs`, this one records nothing about the nodes it passes
over, so nothing hides a controller for good: a pass leaves out one that was there
throughout exactly if the watcher it found at its path has ended since, which the
next pass makes good (`controllers_are_served`).
-/

namespace GamescopeIdle

namespace Hid

open Input (fileName)

/-! ## nodes that come and go -/

/-- The names of the hidraw nodes of `/dev` with their `uevent` files, and the loop
with its watchers. -/
structure Hotplug where
  nodes : Table String String := ∅
  scan : Scan := .fresh
  /-- The nodes that have been there since `/dev` was listed; only statements read
  this field. -/
  present : Table String String := ∅
  /-- The paths whose watcher has ended since the pass tested them; only statements
  read this field. -/
  freed : Finset String := ∅

/-- A node comes or goes, the loop makes a step, or a watcher ends. -/
inductive HotplugLabel where
  | arrive (name uevent : String)
  | leave (name : String)
  /-- `read_dir` yields the nodes that are there throughout, and may yield others. -/
  | list (others : List String)
  | next
  | test
  /-- The `uevent` file of a node that is gone reads as something or nothing. -/
  | profile (gone : Option String)
  | start
  | sleep
  | exit (why : ReadEnd) (i : Nat)

namespace Hotplug

/-- What the loop's next step is, and what it reads. -/
def scanLabel (h : Hotplug) : HotplugLabel → Option ScanLabel
  | .arrive _ _ | .leave _ => none
  | .list others => some (.list (h.nodes.keys ++ others))
  | .next => some .next
  | .test => some .test
  | .profile gone =>
      match h.scan.registry.scanner with
      | .tested path _ => some (.profile ((h.nodes.lookup (fileName path)).or gone))
      | _ => none
  | .start => some .start
  | .sleep => some .sleep
  | .exit why i => some (.exit why i)

/-- What the step is to what only statements read. -/
def account (h : Hotplug) (scan : Scan) : HotplugLabel → Hotplug
  | .list _ => { h with scan := scan, present := h.nodes }
  | .test =>
      match h.scan.registry.scanner with
      | .taken path _ => { h with scan := scan, freed := h.freed.erase path }
      | _ => { h with scan := scan }
  | .exit _ i =>
      match h.scan.registry.tasks[i]? with
      | some (path, _) => { h with scan := scan, freed := insert path h.freed }
      | none => { h with scan := scan }
  | _ => { h with scan := scan }

def step (cfg : Config) (h : Hotplug) (l : HotplugLabel) : Option Hotplug :=
  match l with
  | .arrive name uevent =>
      if h.nodes.lookup name = none ∧ name.startsWith "hidraw" = true ∧ '/' ∉ name.toList then
        some { h with nodes := h.nodes.insert name uevent }
      else none
  | .leave name => some { h with nodes := h.nodes.erase name, present := h.present.erase name }
  | l => (h.scanLabel l).bind fun l' => (h.scan.step cfg l').map (h.account · l)

end Hotplug

/-- The loop, its watchers and the nodes. -/
def hotplug (cfg : Config) : Automaton Hotplug HotplugLabel where
  init h := h = {}
  step := Hotplug.step cfg

namespace Hotplug

/-- What a step does. -/
inductive Moved (h : Hotplug) : HotplugLabel → Hotplug → Prop
  | arrived {name uevent} (hfree : h.nodes.lookup name = none) (hname : name.startsWith "hidraw" = true)
      (hslash : '/' ∉ name.toList) :
      Moved h (.arrive name uevent) { h with nodes := h.nodes.insert name uevent }
  | left {name} :
      Moved h (.leave name)
        { h with nodes := h.nodes.erase name, present := h.present.erase name }
  | listed {others} (hpass : h.scan.pass = none) :
      Moved h (.list others)
        { h with
          scan := { h.scan with pass := some (hidrawNodes (h.nodes.keys ++ others)) }
          present := h.nodes }
  | took {path rest r} (hpass : h.scan.pass = some (path :: rest))
      (hr : h.scan.registry.step (.take path ()) = some r) :
      Moved h .next { h with scan := { registry := r, pass := some rest } }
  | tested {path r} (hscanner : h.scan.registry.scanner = .taken path ())
      (hr : h.scan.registry.step .test = some r) :
      Moved h .test { h with scan := { h.scan with registry := r }, freed := h.freed.erase path }
  | known {path gone profile r} (hscanner : h.scan.registry.scanner = .tested path ())
      (hprofile : profileFor ((h.nodes.lookup (fileName path)).or gone) = some profile)
      (hr : h.scan.registry.step (.insert profile) = some r) :
      Moved h (.profile gone) { h with scan := { h.scan with registry := r } }
  | unknown {path gone r} (hscanner : h.scan.registry.scanner = .tested path ())
      (hprofile : profileFor ((h.nodes.lookup (fileName path)).or gone) = none)
      (hr : h.scan.registry.step .skip = some r) :
      Moved h (.profile gone) { h with scan := { h.scan with registry := r } }
  | started {r} (hr : h.scan.registry.step .start = some r) :
      Moved h .start { h with scan := { h.scan with registry := r } }
  | slept (hpass : h.scan.pass = some []) (hscanner : h.scan.registry.scanner = .idle) :
      Moved h .sleep { h with scan := { h.scan with pass := none } }
  | exited {why i path profile r} (htask : h.scan.registry.tasks[i]? = some (path, profile))
      (hr : h.scan.registry.step (.exit i) = some r) :
      Moved h (.exit why i)
        { h with scan := { h.scan with registry := r }, freed := insert path h.freed }

@[simp] theorem scan_account (h : Hotplug) (s : Scan) (l : HotplugLabel) :
    (h.account s l).scan = s := by
  cases l with
  | test | exit =>
      simp only [account]
      split <;> rfl
  | _ => rfl

/-- A step of the loop, with what only statements read. -/
theorem scan_of_step {cfg : Config} {h h' : Hotplug} {l : HotplugLabel} {l' : ScanLabel}
    (hl : h.scanLabel l = some l') (hstep : h.step cfg l = some h') :
    ∃ s, h.scan.step cfg l' = some s ∧ h' = h.account s l := by
  have hstep' : (h.scan.step cfg l').map (h.account · l) = some h' := by
    cases l with
    | arrive | leave => simp [scanLabel] at hl
    | _ => simpa only [step, hl, Option.bind_some] using hstep
  obtain ⟨s, hs, rfl⟩ := Option.map_eq_some_iff.mp hstep'
  exact ⟨s, hs, rfl⟩

/-- **Inversion of a step**: a step does one of the things `Moved` lists. -/
theorem step_moved {cfg : Config} {h h' : Hotplug} {l : HotplugLabel}
    (hstep : h.step cfg l = some h') : Moved h l h' := by
  cases l with
  | arrive name uevent =>
      simp only [step, Option.ite_none_right_eq_some, Option.some.injEq] at hstep
      obtain ⟨⟨hfree, hname, hslash⟩, rfl⟩ := hstep
      exact .arrived hfree hname hslash
  | leave name =>
      rw [step, Option.some.injEq] at hstep
      exact hstep ▸ .left
  | list others =>
      obtain ⟨s, hs, rfl⟩ := scan_of_step rfl hstep
      replace hs := Scan.scan_of_step hs
      cases hpass : h.scan.pass with
      | none =>
          simp only [Scan.scan, hpass, Option.some.injEq] at hs
          exact hs ▸ .listed hpass
      | some paths => simp [Scan.scan, hpass] at hs
  | next =>
      obtain ⟨s, hs, rfl⟩ := scan_of_step rfl hstep
      replace hs := Scan.scan_of_step hs
      cases hpass : h.scan.pass with
      | none => simp [Scan.scan, hpass] at hs
      | some paths =>
          cases paths with
          | nil => simp [Scan.scan, hpass] at hs
          | cons path rest =>
              simp only [Scan.scan, hpass] at hs
              obtain ⟨r, hr, rfl⟩ := Option.map_eq_some_iff.mp hs
              exact .took hpass hr
  | test =>
      obtain ⟨s, hs, rfl⟩ := scan_of_step rfl hstep
      replace hs := Scan.scan_of_step hs
      obtain ⟨r, hr, rfl⟩ := Option.map_eq_some_iff.mp hs
      cases hscanner : h.scan.registry.scanner with
      | taken path k =>
          simp only [account, hscanner]
          exact .tested hscanner hr
      | _ => simp [Registry.step, hscanner] at hr
  | profile gone =>
      cases hscanner : h.scan.registry.scanner with
      | tested path k =>
          obtain ⟨s, hs, rfl⟩ := scan_of_step (by simp [scanLabel, hscanner]; rfl) hstep
          replace hs := Scan.scan_of_step hs
          cases hprofile : profileFor ((h.nodes.lookup (fileName path)).or gone) with
          | none =>
              simp only [Scan.scan, hprofile] at hs
              obtain ⟨r, hr, rfl⟩ := Option.map_eq_some_iff.mp hs
              exact .unknown hscanner hprofile hr
          | some profile =>
              simp only [Scan.scan, hprofile] at hs
              obtain ⟨r, hr, rfl⟩ := Option.map_eq_some_iff.mp hs
              exact .known hscanner hprofile hr
      | _ => simp [step, scanLabel, hscanner] at hstep
  | start =>
      obtain ⟨s, hs, rfl⟩ := scan_of_step rfl hstep
      replace hs := Scan.scan_of_step hs
      obtain ⟨r, hr, rfl⟩ := Option.map_eq_some_iff.mp hs
      exact .started hr
  | sleep =>
      obtain ⟨s, hs, rfl⟩ := scan_of_step rfl hstep
      replace hs := Scan.scan_of_step hs
      cases hpass : h.scan.pass with
      | none => simp [Scan.scan, hpass] at hs
      | some paths =>
          cases paths with
          | cons path rest => simp [Scan.scan, hpass] at hs
          | nil =>
              cases hscanner : h.scan.registry.scanner with
              | idle =>
                  simp only [Scan.scan, hpass, hscanner, Option.some.injEq] at hs
                  exact hs ▸ .slept hpass hscanner
              | _ => simp [Scan.scan, hpass, hscanner] at hs
  | exit why i =>
      obtain ⟨s, hs, rfl⟩ := scan_of_step rfl hstep
      replace hs := Scan.scan_of_step hs
      rw [Scan.scan, Scan.watcherEnds_eq_register] at hs
      obtain ⟨r, hr, rfl⟩ := Option.map_eq_some_iff.mp hs
      cases htask : h.scan.registry.tasks[i]? with
      | none => simp [Registry.step, htask] at hr
      | some task =>
          simp only [account, htask]
          exact .exited htask hr

/-- The loop runs as it does whatever it reads. -/
theorem reachable_scan {cfg : Config} {h : Hotplug} (hh : (hotplug cfg).Reachable h) :
    (rescan cfg).Reachable h.scan := by
  refine hh.simulate Hotplug.scan ?_ ?_
  · rintro h rfl
    rfl
  · intro h l h' hstep
    cases hl : h.scanLabel l with
    | some l' =>
        obtain ⟨s, hs, rfl⟩ := scan_of_step hl hstep
        exact .inr ⟨l', by rw [scan_account]; exact hs⟩
    | none =>
        cases l with
        | arrive name uevent =>
            have hstep' : h.step cfg (.arrive name uevent) = some h' := hstep
            cases step_moved hstep' with
            | arrived => exact .inl rfl
        | leave name =>
            have hstep' : h.step cfg (.leave name) = some h' := hstep
            cases step_moved hstep' with
            | left => exact .inl rfl
        | profile gone => simp [hotplug, step, hl] at hstep
        | _ => simp [scanLabel] at hl

theorem consistent_of_reachable {cfg : Config} {h : Hotplug} (hh : (hotplug cfg).Reachable h) :
    h.scan.registry.Consistent :=
  Registry.consistent_of_reachable (Scan.registry_of_reachable (reachable_scan hh))

/-! ## what is asked of a pass -/

/-- The node of a known controller has been there since the pass began. -/
def Throughout (h : Hotplug) (name : String) : Prop :=
  ∃ uevent, h.present.lookup name = some uevent ∧ (profileFor (some uevent)).isSome = true

/-- The path `hidraw_nodes` yields for a name. -/
def nodePath (name : String) : String := "/dev/" ++ name

/-- A watcher is live at the path. -/
def Served (h : Hotplug) (name : String) : Prop := h.scan.registry.HasTask (nodePath name)

/-- The watcher at the path has ended since the pass tested the path. -/
def Freed (h : Hotplug) (name : String) : Prop := nodePath name ∈ h.freed

/-- The step ends a pass. -/
def Completes (cfg : Config) (h : Hotplug) (l : HotplugLabel) : Prop :=
  l = .sleep ∧ (h.step cfg l).isSome = true

/-- A pass that ends leaves a known controller that was there throughout without a
watcher exactly if the one at its path has ended under it. -/
def PassServes (cfg : Config) (h : Hotplug) (l : HotplugLabel) : Prop :=
  h.Completes cfg l → ∀ name, h.Throughout name → (h.Served name ↔ ¬ h.Freed name)

/-! ## what is known during a pass -/

/-- The path the scanner has in hand. -/
def hand : Registry.Scanner String Unit Profile → Option String
  | .idle => none
  | .taken path _ | .tested path _ | .inserted path _ => some path

/-- The scanner is past the test of the path. -/
def Committed (r : Registry String Unit Profile) (path : String) : Prop :=
  r.scanner = .tested path () ∨ ∃ profile, r.scanner = .inserted path profile

/-- What has become of a path of the pass. -/
inductive Dealt (r : Registry String Unit Profile) (freed : Finset String) (paths : List String)
    (path : String) : Prop
  | todo (hmem : path ∈ paths)
  | inHand (hhand : hand r.scanner = some path)
  | watched (htask : r.HasTask path)
  | freed (hfreed : path ∈ freed)

/-- What is known of the nodes and of the pass under way. -/
structure Known (h : Hotplug) : Prop where
  named : ∀ name uevent, h.nodes.lookup name = some uevent →
    name.startsWith "hidraw" = true ∧ '/' ∉ name.toList
  current : ∀ name uevent, h.present.lookup name = some uevent → h.nodes.lookup name = some uevent
  freed : ∀ path ∈ h.freed, ¬ h.scan.registry.HasTask path ∧ ¬ Committed h.scan.registry path
  dealt : ∀ paths, h.scan.pass = some paths → ∀ name uevent, h.present.lookup name = some uevent →
    (profileFor (some uevent)).isSome = true →
      Dealt h.scan.registry h.freed paths (nodePath name)

theorem fileName_nodePath {name : String} (h : '/' ∉ name.toList) : fileName (nodePath name) = name := by
  have hall : ∀ c ∈ name.toList.reverse, (c != '/') = true := by
    intro c hc
    simp only [bne_iff_ne, ne_eq]
    rintro rfl
    exact h (List.mem_reverse.mp hc)
  have hdev : (nodePath name).toList.reverse = name.toList.reverse ++ ['/', 'v', 'e', 'd', '/'] := by
    simp [nodePath]
  rw [fileName, hdev, List.takeWhile_append_of_pos hall]
  simp

/-- A node that is there is listed. -/
theorem mem_hidrawNodes {h : Hotplug} (hh : h.Known) {name uevent : String}
    (hname : h.nodes.lookup name = some uevent) (others : List String) :
    nodePath name ∈ hidrawNodes (h.nodes.keys ++ others) := by
  have hkey : name ∈ h.nodes.keys := by
    rw [← AList.mem_keys, ← AList.lookup_isSome, hname]
    rfl
  refine List.mem_mergeSort.mpr (List.mem_map.mpr ⟨name, List.mem_filter.mpr ⟨?_, ?_⟩, rfl⟩)
  · exact List.mem_append_left others hkey
  · exact (hh.named name uevent hname).1

theorem known_step {cfg : Config} {h h' : Hotplug} {l : HotplugLabel}
    (hr : h.scan.registry.Consistent) (hempty : h.scan.registry.recorded = ∅) (hh : h.Known)
    (hstep : h.step cfg l = some h') : h'.Known := by
  cases step_moved hstep with
  | @arrived name uevent hfree hname hslash =>
      refine ⟨?_, ?_, hh.freed, hh.dealt⟩
      · intro name' uevent' hlookup
        rw [Table.lookup_insert] at hlookup
        split at hlookup
        · next heq => exact heq ▸ ⟨hname, hslash⟩
        · exact hh.named name' uevent' hlookup
      · intro name' uevent' hlookup
        have hold := hh.current name' uevent' hlookup
        have hne : name' ≠ name := by
          rintro rfl
          simp [hfree] at hold
        rw [Table.lookup_insert, if_neg hne]
        exact hold
  | @left name =>
      refine ⟨?_, ?_, hh.freed, ?_⟩
      · intro name' uevent' hlookup
        exact hh.named name' uevent' (Table.lookup_erase_eq_some.mp hlookup).2
      · intro name' uevent' hlookup
        obtain ⟨hne, hold⟩ := Table.lookup_erase_eq_some.mp hlookup
        exact Table.lookup_erase_eq_some.mpr ⟨hne, hh.current name' uevent' hold⟩
      · intro paths hpaths name' uevent' hlookup
        exact hh.dealt paths hpaths name' uevent' (Table.lookup_erase_eq_some.mp hlookup).2
  | listed hpass =>
      refine ⟨hh.named, fun _ _ hlookup => hlookup, hh.freed, ?_⟩
      intro paths hpaths name uevent hlookup _
      obtain rfl := Option.some.inj hpaths
      exact .todo (mem_hidrawNodes hh hlookup _)
  | @took path rest r hpass hr' =>
      cases Registry.step_moved hr' with
      | took hscanner =>
          refine ⟨hh.named, hh.current, ?_, ?_⟩
          · intro path' hfreed
            exact ⟨(hh.freed path' hfreed).1, by simp [Committed]⟩
          · intro paths hpaths name uevent hlookup hknown
            obtain rfl := Option.some.inj hpaths
            cases hh.dealt _ hpass name uevent hlookup hknown with
            | todo hmem =>
                cases List.mem_cons.mp hmem with
                | inl heq => exact .inHand (heq ▸ rfl)
                | inr hmem => exact .todo hmem
            | inHand hhand => simp [hscanner, hand] at hhand
            | watched htask => exact .watched htask
            | freed hfreed => exact .freed hfreed
  | @tested path r hscanner hr' =>
      cases Registry.step_moved hr' with
      | @present p k hscanner' hp =>
          obtain rfl : path = p := by simpa [hscanner] using hscanner'
          have htask : h.scan.registry.HasTask path := by
            obtain htask | ⟨j, hj⟩ | hrecorded := hr.accounted path hp
            · exact htask
            · simp [hscanner] at hj
            · simp [hempty] at hrecorded
          refine ⟨hh.named, hh.current, ?_, ?_⟩
          · intro path' hfreed
            exact ⟨(hh.freed path' (Finset.mem_of_mem_erase hfreed)).1, by simp [Committed]⟩
          · intro paths hpaths name uevent hlookup hknown
            cases hh.dealt paths hpaths name uevent hlookup hknown with
            | todo hmem => exact .todo hmem
            | inHand hhand =>
                have heq : path = nodePath name := by simpa [hscanner, hand] using hhand
                exact .watched (heq ▸ htask)
            | watched htask => exact .watched htask
            | freed hfreed =>
                by_cases heq : nodePath name = path
                · exact .watched (heq ▸ htask)
                · exact .freed (Finset.mem_erase.mpr ⟨heq, hfreed⟩)
      | @absent p k hscanner' hp =>
          obtain rfl : path = p := by simpa [hscanner] using hscanner'
          refine ⟨hh.named, hh.current, ?_, ?_⟩
          · intro path' hfreed
            obtain ⟨hne, hold⟩ := Finset.mem_erase.mp hfreed
            refine ⟨(hh.freed path' hold).1, ?_⟩
            simpa [Committed] using fun heq => hne heq.symm
          · intro paths hpaths name uevent hlookup hknown
            cases hh.dealt paths hpaths name uevent hlookup hknown with
            | todo hmem => exact .todo hmem
            | inHand hhand => exact .inHand (by simpa [hscanner, hand] using hhand)
            | watched htask => exact .watched htask
            | freed hfreed =>
                by_cases heq : nodePath name = path
                · exact .inHand (by simp [hand, heq])
                · exact .freed (Finset.mem_erase.mpr ⟨heq, hfreed⟩)
  | @known path gone profile r hscanner hprofile hr' =>
      cases Registry.step_moved hr' with
      | @inserted p k j hscanner' =>
          obtain rfl : path = p := by simpa [hscanner] using hscanner'
          refine ⟨hh.named, hh.current, ?_, ?_⟩
          · intro path' hfreed
            obtain ⟨hnotask, hfree⟩ := hh.freed path' hfreed
            refine ⟨hnotask, ?_⟩
            rintro (hno | ⟨profile', hinserted⟩)
            · contradiction
            · obtain rfl : path = path' := by simp at hinserted; exact hinserted.1
              exact hfree (.inl hscanner)
          · intro paths hpaths name uevent hlookup hknown
            cases hh.dealt paths hpaths name uevent hlookup hknown with
            | todo hmem => exact .todo hmem
            | inHand hhand => exact .inHand (by simpa [hscanner, hand] using hhand)
            | watched htask => exact .watched htask
            | freed hfreed => exact .freed hfreed
  | @unknown path gone r hscanner hprofile hr' =>
      cases Registry.step_moved hr' with
      | skipped =>
          refine ⟨hh.named, hh.current, ?_, ?_⟩
          · intro path' hfreed
            exact ⟨(hh.freed path' hfreed).1, by simp [Committed]⟩
          · intro paths hpaths name uevent hlookup hknown
            cases hh.dealt paths hpaths name uevent hlookup hknown with
            | todo hmem => exact .todo hmem
            | inHand hhand =>
                -- its own file was read, which names a known controller
                have heq : path = nodePath name := by simpa [hscanner, hand] using hhand
                have hcurrent := hh.current name uevent hlookup
                rw [heq, fileName_nodePath (hh.named name uevent hcurrent).2, hcurrent,
                  Option.some_or] at hprofile
                simp [hprofile] at hknown
            | watched htask => exact .watched htask
            | freed hfreed => exact .freed hfreed
  | started hr' =>
      cases Registry.step_moved hr' with
      | @started path profile hscanner =>
          refine ⟨hh.named, hh.current, ?_, ?_⟩
          · intro path' hfreed
            obtain ⟨hnotask, hfree⟩ := hh.freed path' hfreed
            refine ⟨?_, by simp [Committed]⟩
            intro htask
            cases List.mem_cons.mp htask with
            | inl hnew =>
                obtain rfl : path' = path := hnew
                exact hfree (.inr ⟨profile, hscanner⟩)
            | inr hold => exact hnotask hold
          · intro paths hpaths name uevent hlookup hknown
            cases hh.dealt paths hpaths name uevent hlookup hknown with
            | todo hmem => exact .todo hmem
            | inHand hhand =>
                have heq : path = nodePath name := by simpa [hscanner, hand] using hhand
                exact .watched (heq ▸ List.mem_cons_self)
            | watched htask => exact .watched (List.mem_cons_of_mem path htask)
            | freed hfreed => exact .freed hfreed
  | slept hpass hscanner => exact ⟨hh.named, hh.current, hh.freed, nofun⟩
  | @exited why i path profile r htask hr' =>
      cases Registry.step_moved hr' with
      | @exited _ p j htask' =>
          obtain ⟨rfl, rfl⟩ : path = p ∧ profile = j := by simpa [htask] using htask'
          have hleft := Registry.mem_map_eraseIdx hr.atMostOne htask
          have hp : h.scan.registry.HasTask path :=
            List.mem_map.mpr ⟨(path, profile), List.mem_of_getElem? htask, rfl⟩
          refine ⟨hh.named, hh.current, ?_, ?_⟩
          · intro path' hfreed
            cases Finset.mem_insert.mp hfreed with
            | inl heq =>
                subst heq
                refine ⟨fun htask' => ((hleft path').mp htask').1 rfl, ?_⟩
                rintro (htested | ⟨profile', hinserted⟩)
                · exact hr.tested path' () htested (hr.watched_of_task path' hp)
                · exact (hr.inserted path' profile' hinserted).2.1 hp
            | inr hold =>
                obtain ⟨hnotask, hfree⟩ := hh.freed path' hold
                exact ⟨fun htask' => hnotask ((hleft path').mp htask').2, hfree⟩
          · intro paths hpaths name uevent hlookup hknown
            cases hh.dealt paths hpaths name uevent hlookup hknown with
            | todo hmem => exact .todo hmem
            | inHand hhand => exact .inHand hhand
            | watched hwatched =>
                by_cases heq : nodePath name = path
                · exact .freed (heq ▸ Finset.mem_insert_self _ _)
                · exact .watched ((hleft _).mpr ⟨heq, hwatched⟩)
            | freed hfreed => exact .freed (Finset.mem_insert_of_mem hfreed)

theorem known_of_reachable {cfg : Config} {h : Hotplug} (hh : (hotplug cfg).Reachable h) :
    h.Known := by
  refine hh.invariant ?_ ?_
  · rintro h rfl
    exact ⟨nofun, nofun, by simp, nofun⟩
  · intro h l h' hh hknown hstep
    exact known_step (consistent_of_reachable hh) (Scan.recorded_eq_empty (reachable_scan hh)) hknown
      hstep

end Hotplug

/-- **Known controllers are served** by every pass of every run: one that was there
throughout has a live watcher at its path when the pass ends, exactly if none has
ended there since the pass tested it. -/
theorem controllers_are_served {cfg : Config} {h : Hotplug} {l : HotplugLabel}
    (hh : (hotplug cfg).Reachable h) : h.PassServes cfg l := by
  rintro ⟨rfl, hsome⟩ name ⟨uevent, hlookup, hknown⟩
  have hinv := Hotplug.known_of_reachable hh
  obtain ⟨h', hstep⟩ := Option.isSome_iff_exists.mp hsome
  cases Hotplug.step_moved hstep with
  | slept hpass hscanner =>
      constructor
      · intro hserved hfreed
        exact (hinv.freed _ hfreed).1 hserved
      · intro hfreed
        cases hinv.dealt [] hpass name uevent hlookup hknown with
        | todo hmem => simp at hmem
        | inHand hhand => simp [hscanner, Hotplug.hand] at hhand
        | watched htask => exact htask
        | freed hlost => exact absurd hlost hfreed

/-- A keyboard at a path that a controller comes to later: it is passed over, and the
next pass starts a watcher for the controller. -/
theorem controllers_are_served_reused :
    let keyboard := "HID_ID=0003:0000046D:0000C31C\n"
    let controller := "HID_ID=0003:000028DE:00001304\n"
    let ls : List HotplugLabel := [.arrive "hidraw3" keyboard, .list [], .next, .test, .profile none,
      .sleep, .leave "hidraw3", .arrive "hidraw3" controller, .list ["null"], .next, .test,
      .profile none, .start]
    ∃ h, (hotplug default).run {} ls = some h ∧ h.Completes default .sleep ∧
      h.Throughout "hidraw3" ∧ (h.Served "hidraw3" ↔ ¬ h.Freed "hidraw3") := by
  intro keyboard controller ls
  have hchecked : ((hotplug default).run {} ls).any (fun h =>
      (h.step default .sleep).isSome && h.present.lookup "hidraw3" == some controller &&
        (profileFor (some controller)).isSome) = true := by decide +kernel
  obtain ⟨h, hrun, hh⟩ := (Option.any_eq_true _ _).mp hchecked
  obtain ⟨⟨hsome, hlookup⟩, hknown⟩ : ((h.step default .sleep).isSome = true ∧
      h.present.lookup "hidraw3" = some controller) ∧
        (profileFor (some controller)).isSome = true := by simpa using hh
  have hends : h.Completes default .sleep := ⟨rfl, hsome⟩
  have hthere : h.Throughout "hidraw3" := ⟨controller, hlookup, hknown⟩
  exact ⟨h, hrun, hends, hthere, controllers_are_served ⟨{}, ls, rfl, hrun⟩ hends "hidraw3" hthere⟩

end Hid

end GamescopeIdle
