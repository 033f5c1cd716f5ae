import GamescopeIdle.Input.Rescan

/-!
# GamescopeIdle.Input.Hotplug

Whether a rescan pass leaves every eligible device with a watcher.  A pass does so
but for two reasons: the watcher that it found at the path has ended since, which the
next pass makes good, and a path once recorded for a blocklisted device is never
looked at again, whatever comes to it (`eligible_devices_are_served_iff`).
-/

namespace GamescopeIdle

namespace Input

/-! ## what is asked of a pass -/

/-- The device is an eligible source at its node. -/
structure Eligible (cfg : Config) (path : String) (dev : Device) : Prop where
  source : isInputSource dev = true
  notIgnored : fileName path ∉ cfg.ignoreDevices
  notBlocked : ∀ pattern ∈ NAME_BLOCKLIST, contains (trim (dev.name.getD "")) pattern = false

theorem inspect_eq_watch_iff (cfg : Config) (path : String) (dev : Device) :
    inspect cfg path dev = .watch ↔ Eligible cfg path dev := by
  have hignored : cfg.ignoreDevices.any (· == fileName path) = true ↔
      fileName path ∈ cfg.ignoreDevices := by simp
  have hblocked : NAME_BLOCKLIST.any (contains (trim (dev.name.getD ""))) = true ↔
      ∃ pattern ∈ NAME_BLOCKLIST, contains (trim (dev.name.getD "")) pattern = true :=
    List.any_eq_true
  unfold inspect
  split
  · next hyes => exact iff_of_false nofun fun he => he.notIgnored (hignored.mp hyes)
  · next hignore =>
      split
      · next hno => exact iff_of_false nofun fun he => by simp [he.source] at hno
      · next hsource =>
          split
          · next hyes =>
              obtain ⟨pattern, hp, hcontains⟩ := hblocked.mp hyes
              refine iff_of_false nofun fun he => ?_
              exact absurd hcontains (Bool.eq_false_iff.mp (he.notBlocked pattern hp))
          · next hblock =>
              refine iff_of_true rfl ⟨by simpa using hsource, fun hmem => hignore (hignored.mpr hmem), ?_⟩
              intro pattern hp
              exact Bool.eq_false_iff.mpr fun hcontains => hblock (hblocked.mpr ⟨pattern, hp, hcontains⟩)

namespace Hotplug

/-- The device has been at the node since the pass began. -/
def Throughout (h : Hotplug) (path : String) (n : Node) : Prop :=
  ∃ ps, h.pass = some ps ∧ ps.present.lookup path = some n

/-- The device has a live watcher, or one for an earlier device at its path is live. -/
def Served (h : Hotplug) (path : String) (n : Node) : Prop :=
  (path, n) ∈ h.registry.tasks ∨ ∃ m, (path, m) ∈ h.registry.tasks ∧ m.id < n.id

/-- The path has been recorded for a blocklisted device. -/
def Blocked (h : Hotplug) (path : String) : Prop := path ∈ h.registry.recorded

/-- The watcher at the path has ended since the pass tested the path. -/
def Freed (h : Hotplug) (path : String) : Prop := ∃ ps, h.pass = some ps ∧ path ∈ ps.freed

/-- The step ends a pass. -/
def Completes (cfg : Config) (h : Hotplug) (l : RescanLabel) : Prop :=
  l = .sleep ∧ (h.step cfg l).isSome = true

/-- A pass that ends leaves every eligible device served that was there throughout. -/
def PassServes (cfg : Config) (h : Hotplug) (l : RescanLabel) : Prop :=
  h.Completes cfg l → ∀ path n, h.Throughout path n → Eligible cfg path n.dev → h.Served path n

/-- Where a pass that ends found an eligible device throughout, no blocklisted device
has been recorded, and no watcher has ended since the pass tested the path. -/
def Undisturbed (cfg : Config) (h : Hotplug) (l : RescanLabel) : Prop :=
  h.Completes cfg l → ∀ path n, h.Throughout path n → Eligible cfg path n.dev →
    ¬ h.Blocked path ∧ ¬ h.Freed path

/-! ## what the watchers hold -/

/-- The path and the device the scanner has in hand. -/
def hand : Registry.Scanner String Node Node → Option (String × Node)
  | .idle => none
  | .taken path n => some (path, n)
  | .tested path n => some (path, n)
  | .inserted path n => some (path, n)

/-- The scanner has the device in hand, or a watcher reads it. -/
def Holds (r : Registry String Node Node) (path : String) (n : Node) : Prop :=
  hand r.scanner = some (path, n) ∨ (path, n) ∈ r.tasks

/-- The devices held were all at their paths; one that is gone arrived before the one
that is there now. -/
structure Placed (h : Hotplug) : Prop where
  consistent : h.registry.Consistent
  arrived : ∀ path n, h.nodes.lookup path = some n → n.id < h.arrivals
  held : ∀ path n, Holds h.registry path n → n.id < h.arrivals
  older : ∀ path n m, Holds h.registry path n → h.nodes.lookup path = some m → n = m ∨ n.id < m.id

/-- A registry step that takes up nothing but what is at its node. -/
theorem Placed.registry {h : Hotplug} (hh : Placed h) {r : Registry String Node Node}
    {l : Registry.Label String Node Node} (hr : h.registry.step l = some r)
    (hheld : ∀ path n, Holds r path n →
      Holds h.registry path n ∨ h.nodes.lookup path = some n) (pass : Option Pass) :
    Placed { h with registry := r, pass := pass } := by
  refine ⟨Registry.consistent_step hh.consistent hr, hh.arrived, ?_, ?_⟩
  · intro path n hn
    cases hheld path n hn with
    | inl hold => exact hh.held path n hold
    | inr hthere => exact hh.arrived path n hthere
  · intro path n m hn hm
    cases hheld path n hn with
    | inl hold => exact hh.older path n m hold hm
    | inr hthere => exact .inl (Option.some.inj (hthere.symm.trans hm))

theorem placed_step {cfg : Config} {h h' : Hotplug} {l : RescanLabel} (hh : Placed h)
    (hstep : h.step cfg l = some h') : Placed h' := by
  cases step_moved hstep with
  | @arrived path dev hfree =>
      refine ⟨hh.consistent, ?_, ?_, ?_⟩
      · intro path' n hn
        rw [Table.lookup_insert] at hn
        split at hn
        · obtain rfl := Option.some.inj hn
          exact Nat.lt_succ_self _
        · exact Nat.lt_succ_of_lt (hh.arrived path' n hn)
      · intro path' n hn
        exact Nat.lt_succ_of_lt (hh.held path' n hn)
      · intro path' n m hn hm
        rw [Table.lookup_insert] at hm
        split at hm
        · obtain rfl := Option.some.inj hm
          exact .inr (hh.held path' n hn)
        · exact hh.older path' n m hn hm
  | @left path n hn =>
      have hsub (path' : String) (m : Node) (hm : (h.nodes.erase path).lookup path' = some m) :
          h.nodes.lookup path' = some m := (Table.lookup_erase_eq_some.mp hm).2
      exact ⟨hh.consistent, fun path' m hm => hh.arrived path' m (hsub path' m hm), hh.held,
        fun path' k m hk hm => hh.older path' k m hk (hsub path' m hm)⟩
  | woke hpass => exact ⟨hh.consistent, hh.arrived, hh.held, hh.older⟩
  | slept hpass => exact ⟨hh.consistent, hh.arrived, hh.held, hh.older⟩
  | yielded hpass hn hr =>
      refine hh.registry hr ?_ _
      cases Registry.step_moved hr
      grind [Holds, hand]
  | tested hscanner hr =>
      refine hh.registry hr ?_ _
      cases Registry.step_moved hr <;> grind [Holds, hand]
  | @inspected path n r hscanner hr =>
      refine hh.registry hr ?_ _
      cases hverdict : inspect cfg path n.dev <;>
        rw [hverdict, Verdict.label] at hr <;> cases Registry.step_moved hr <;> grind [Holds, hand]
  | started hr =>
      refine hh.registry hr ?_ _
      cases Registry.step_moved hr
      grind [Holds, hand]
  | exited htask hr =>
      refine hh.registry hr ?_ _
      cases Registry.step_moved hr
      grind [Holds, hand, List.mem_of_mem_eraseIdx]

theorem placed_of_reachable {cfg : Config} {h : Hotplug} (hh : (rescan cfg).Reachable h) : Placed h := by
  refine hh.invariant ?_ fun h l h' _ => placed_step
  rintro h rfl
  exact ⟨Registry.consistent_empty, nofun, by simp [Holds, hand, fresh, Registry.empty],
    by simp [Holds, hand, fresh, Registry.empty]⟩

/-! ## what a pass has dealt with -/

/-- Where a device is that has been at its node since the pass began. -/
inductive Dealt (r : Registry String Node Node) (ps : Pass) (path : String) (n : Node) : Prop
  | todo (htodo : ps.todo.lookup path = some n)
  | inHand (hhand : hand r.scanner = some (path, n))
  | watched (htask : r.HasTask path)
  | recorded (hrecorded : path ∈ r.recorded)
  | freed (hfreed : path ∈ ps.freed)

/-- The scanner has seen that the path is not in the set. -/
def Committed (r : Registry String Node Node) (path : String) : Prop :=
  ∃ n, r.scanner = .tested path n ∨ r.scanner = .inserted path n

/-- What is known of the devices that have been at their nodes since the pass began. -/
structure OnPass (cfg : Config) (nodes : Table String Node) (r : Registry String Node Node)
    (ps : Pass) : Prop where
  current : ∀ path n, ps.present.lookup path = some n → nodes.lookup path = some n
  inHand : ∀ path n m, hand r.scanner = some (path, m) → ps.present.lookup path = some n → m = n
  dealt : ∀ path n, ps.present.lookup path = some n → Eligible cfg path n.dev → Dealt r ps path n
  /-- A path that has lost its watcher gets no other one until it is tested again. -/
  freed : ∀ path ∈ ps.freed, ¬ r.HasTask path ∧ ¬ Committed r path

section
variable {cfg : Config} {nodes : Table String Node} {r : Registry String Node Node} {ps : Pass}
  {path : String} {n : Node}

theorem OnPass.arrive (h : OnPass cfg nodes r ps) (hfree : nodes.lookup path = none) (n : Node) :
    OnPass cfg (nodes.insert path n) r ps := by
  refine ⟨?_, h.inHand, h.dealt, h.freed⟩
  intro path' m hm
  have hthere := h.current path' m hm
  have hne : path' ≠ path := by
    rintro rfl
    simp [hfree] at hthere
  rw [Table.lookup_insert, if_neg hne]
  exact hthere

/-- A device that leaves has not been there throughout. -/
theorem OnPass.leave (h : OnPass cfg nodes r ps) (path : String) :
    OnPass cfg (nodes.erase path) r (ps.leave path) := by
  have hpresent (path' : String) (m : Node) (hm : (ps.leave path).present.lookup path' = some m) :
      path' ≠ path ∧ ps.present.lookup path' = some m := Table.lookup_erase_eq_some.mp hm
  constructor
  case current =>
    intro path' m hm
    have hold := hpresent path' m hm
    exact Table.lookup_erase_eq_some.mpr ⟨hold.1, h.current path' m hold.2⟩
  case inHand =>
    intro path' m k hhand hm
    exact h.inHand path' m k hhand (hpresent path' m hm).2
  case dealt =>
    intro path' m hm heligible
    have hold := hpresent path' m hm
    cases h.dealt path' m hold.2 heligible with
    | todo htodo => exact .todo (Table.lookup_erase_eq_some.mpr ⟨hold.1, htodo⟩)
    | inHand hhand => exact .inHand hhand
    | watched htask => exact .watched htask
    | recorded hrecorded => exact .recorded hrecorded
    | freed hfreed => exact .freed hfreed
  case freed => exact h.freed

/-- The device yielded is the one that is there. -/
theorem OnPass.yield (h : OnPass cfg nodes r ps) (hscanner : r.scanner = .idle)
    (hn : nodes.lookup path = some n) :
    OnPass cfg nodes { r with scanner := .taken path n } { ps with todo := ps.todo.erase path } := by
  have hsame (m : Node) (hm : ps.present.lookup path = some m) : n = m :=
    Option.some.inj (hn.symm.trans (h.current path m hm))
  constructor
  case current => exact h.current
  case inHand =>
    intro path' m k hhand hm
    obtain ⟨rfl, rfl⟩ : path = path' ∧ n = k := by simpa [hand] using hhand
    exact hsame m hm
  case dealt =>
    intro path' m hm heligible
    by_cases heq : path' = path
    · subst heq
      exact .inHand (by rw [hand, hsame m hm])
    · cases h.dealt path' m hm heligible with
      | todo htodo => exact .todo (Table.lookup_erase_eq_some.mpr ⟨heq, htodo⟩)
      | inHand hhand => simp [hscanner, hand] at hhand
      | watched htask => exact .watched htask
      | recorded hrecorded => exact .recorded hrecorded
      | freed hfreed => exact .freed hfreed
  case freed =>
    intro path' hfreed
    exact ⟨(h.freed path' hfreed).1, by simp [Committed]⟩

/-- A path found in the set has a watcher or is recorded. -/
theorem OnPass.present (h : OnPass cfg nodes r ps) (hr : r.Consistent)
    (hscanner : r.scanner = .taken path n) (hp : path ∈ r.watched) :
    OnPass cfg nodes { r with scanner := .idle } (ps.test path) := by
  constructor
  case current => exact h.current
  case inHand => simp [hand]
  case dealt =>
    intro path' m hm heligible
    by_cases heq : path' = path
    · subst heq
      obtain htask | ⟨j, hj⟩ | hrecorded := hr.accounted path' hp
      · exact .watched htask
      · simp [hscanner] at hj
      · exact .recorded hrecorded
    · cases h.dealt path' m hm heligible with
      | todo htodo => exact .todo htodo
      | inHand hhand =>
          have hpath : path = path' := by simpa [hscanner, hand] using congrArg (Option.map Prod.fst) hhand
          exact absurd hpath.symm heq
      | watched htask => exact .watched htask
      | recorded hrecorded => exact .recorded hrecorded
      | freed hfreed => exact .freed (Finset.mem_erase.mpr ⟨heq, hfreed⟩)
  case freed =>
    intro path' hfreed
    exact ⟨(h.freed path' (Finset.mem_of_mem_erase hfreed)).1, by simp [Committed]⟩

/-- A path that is not in the set stays in hand. -/
theorem OnPass.absent (h : OnPass cfg nodes r ps) (hscanner : r.scanner = .taken path n) :
    OnPass cfg nodes { r with scanner := .tested path n } (ps.test path) := by
  have hkept : hand r.scanner = hand (.tested path n) := by rw [hscanner]; rfl
  constructor
  case current => exact h.current
  case inHand =>
    intro path' m k hhand hm
    exact h.inHand path' m k (hkept.trans hhand) hm
  case dealt =>
    intro path' m hm heligible
    cases h.dealt path' m hm heligible with
    | todo htodo => exact .todo htodo
    | inHand hhand => exact .inHand (hkept.symm.trans hhand)
    | watched htask => exact .watched htask
    | recorded hrecorded => exact .recorded hrecorded
    | freed hfreed =>
        by_cases heq : path' = path
        · subst heq
          have hsame : n = m := h.inHand path' m n (by rw [hscanner]; rfl) hm
          exact .inHand (by rw [← hsame]; rfl)
        · exact .freed (Finset.mem_erase.mpr ⟨heq, hfreed⟩)
  case freed =>
    intro path' hfreed
    obtain ⟨hne, hfreed⟩ := Finset.mem_erase.mp hfreed
    refine ⟨(h.freed path' hfreed).1, ?_⟩
    rintro ⟨m, hm⟩
    have hpath : path = path' := by simp at hm; exact hm.1
    exact hne hpath.symm

/-- A device that is not eligible is passed over. -/
theorem OnPass.skip (h : OnPass cfg nodes r ps) (hscanner : r.scanner = .tested path n)
    (hverdict : ¬ Eligible cfg path n.dev) : OnPass cfg nodes { r with scanner := .idle } ps := by
  constructor
  case current => exact h.current
  case inHand => simp [hand]
  case dealt =>
    intro path' m hm heligible
    cases h.dealt path' m hm heligible with
    | todo htodo => exact .todo htodo
    | inHand hhand =>
        obtain ⟨rfl, rfl⟩ : path = path' ∧ n = m := by simpa [hscanner, hand] using hhand
        exact absurd heligible hverdict
    | watched htask => exact .watched htask
    | recorded hrecorded => exact .recorded hrecorded
    | freed hfreed => exact .freed hfreed
  case freed =>
    intro path' hfreed
    exact ⟨(h.freed path' hfreed).1, by simp [Committed]⟩

/-- So is one that is recorded. -/
theorem OnPass.record (h : OnPass cfg nodes r ps) (hscanner : r.scanner = .tested path n)
    (hverdict : ¬ Eligible cfg path n.dev) :
    OnPass cfg nodes { r with
      watched := insert path r.watched, recorded := insert path r.recorded, scanner := .idle } ps := by
  have hskipped := h.skip hscanner hverdict
  refine ⟨hskipped.current, hskipped.inHand, ?_, hskipped.freed⟩
  intro path' m hm heligible
  cases hskipped.dealt path' m hm heligible with
  | todo htodo => exact .todo htodo
  | inHand hhand => exact .inHand hhand
  | watched htask => exact .watched htask
  | recorded hrecorded => exact .recorded (Finset.mem_insert_of_mem hrecorded)
  | freed hfreed => exact .freed hfreed

/-- An eligible device stays in hand until its watcher starts. -/
theorem OnPass.insert (h : OnPass cfg nodes r ps) (hscanner : r.scanner = .tested path n) :
    OnPass cfg nodes { r with watched := insert path r.watched, scanner := .inserted path n } ps := by
  have hkept : hand r.scanner = hand (.inserted path n) := by rw [hscanner]; rfl
  constructor
  case current => exact h.current
  case inHand =>
    intro path' m k hhand hm
    exact h.inHand path' m k (hkept.trans hhand) hm
  case dealt =>
    intro path' m hm heligible
    cases h.dealt path' m hm heligible with
    | todo htodo => exact .todo htodo
    | inHand hhand => exact .inHand (hkept.symm.trans hhand)
    | watched htask => exact .watched htask
    | recorded hrecorded => exact .recorded hrecorded
    | freed hfreed => exact .freed hfreed
  case freed =>
    intro path' hfreed
    refine ⟨(h.freed path' hfreed).1, ?_⟩
    rintro ⟨m, hm⟩
    obtain rfl : path = path' := by simp at hm; exact hm.1
    exact (h.freed path hfreed).2 ⟨n, .inl hscanner⟩

/-- From then on its path has a watcher. -/
theorem OnPass.start (h : OnPass cfg nodes r ps) (hscanner : r.scanner = .inserted path n) :
    OnPass cfg nodes { r with tasks := (path, n) :: r.tasks, scanner := .idle } ps := by
  constructor
  case current => exact h.current
  case inHand => simp [hand]
  case dealt =>
    intro path' m hm heligible
    cases h.dealt path' m hm heligible with
    | todo htodo => exact .todo htodo
    | inHand hhand =>
        obtain ⟨rfl, rfl⟩ : path = path' ∧ n = m := by simpa [hscanner, hand] using hhand
        exact .watched List.mem_cons_self
    | watched htask => exact .watched (List.mem_cons_of_mem path htask)
    | recorded hrecorded => exact .recorded hrecorded
    | freed hfreed => exact .freed hfreed
  case freed =>
    intro path' hfreed
    obtain ⟨hnotask, hfree⟩ := h.freed path' hfreed
    refine ⟨?_, by simp [Committed]⟩
    intro htask
    cases List.mem_cons.mp htask with
    | inl hnew =>
        obtain rfl : path' = path := hnew
        exact hfree ⟨n, .inr hscanner⟩
    | inr hold => exact hnotask hold

/-- The end of a watcher frees its path, and the scanner has nothing in hand there that
it could still start. -/
theorem OnPass.exit (h : OnPass cfg nodes r ps) (hr : r.Consistent) {i : Nat}
    (htask : r.tasks[i]? = some (path, n)) :
    OnPass cfg nodes { r with tasks := r.tasks.eraseIdx i, watched := r.watched.erase path }
      (ps.free path) := by
  have hleft := Registry.mem_map_eraseIdx hr.atMostOne htask
  have hp : r.HasTask path := List.mem_map.mpr ⟨(path, n), List.mem_of_getElem? htask, rfl⟩
  constructor
  case current => exact h.current
  case inHand => exact h.inHand
  case dealt =>
    intro path' m hm heligible
    cases h.dealt path' m hm heligible with
    | todo htodo => exact .todo htodo
    | inHand hhand => exact .inHand hhand
    | watched hwatched =>
        by_cases heq : path' = path
        · exact .freed (heq ▸ Finset.mem_insert_self path ps.freed)
        · exact .watched ((hleft path').mpr ⟨heq, hwatched⟩)
    | recorded hrecorded => exact .recorded hrecorded
    | freed hfreed => exact .freed (Finset.mem_insert_of_mem hfreed)
  case freed =>
    intro path' hfreed
    cases Finset.mem_insert.mp hfreed with
    | inl heq =>
        subst heq
        refine ⟨fun htask' => ((hleft path').mp htask').1 rfl, ?_⟩
        rintro ⟨m, htested | hinserted⟩
        · exact hr.tested path' m htested (hr.watched_of_task path' hp)
        · exact (hr.inserted path' m hinserted).2.1 hp
    | inr hold =>
        obtain ⟨hnotask, hfree⟩ := h.freed path' hold
        exact ⟨fun htask' => hnotask ((hleft path').mp htask').2, hfree⟩

end

/-- What is known of the pass under way; while the loop sleeps, nothing is in hand. -/
structure PassKnown (cfg : Config) (h : Hotplug) : Prop where
  asleep : h.pass = none → h.registry.scanner = .idle
  underway : ∀ ps, h.pass = some ps → OnPass cfg h.nodes h.registry ps

/-- The loop takes a step in the pass that is under way. -/
theorem PassKnown.of_step {cfg : Config} {h : Hotplug} (hh : PassKnown cfg h)
    {nodes : Table String Node} {r : Registry String Node Node} {next : Pass → Pass}
    (hasleep : h.pass = none → r.scanner = .idle)
    (hstep : ∀ ps, OnPass cfg h.nodes h.registry ps → OnPass cfg nodes r (next ps)) (arrivals : Nat) :
    PassKnown cfg { nodes := nodes, arrivals := arrivals, registry := r, pass := h.pass.map next } := by
  refine ⟨?_, ?_⟩
  · intro hpass
    exact hasleep (Option.map_eq_none_iff.mp hpass)
  · intro ps hps
    obtain ⟨ps₀, hps₀, rfl⟩ := Option.map_eq_some_iff.mp hps
    exact hstep ps₀ (hh.underway ps₀ hps₀)

theorem passKnown_step {cfg : Config} {h h' : Hotplug} {l : RescanLabel} (hplaced : Placed h)
    (hh : PassKnown cfg h) (hstep : h.step cfg l = some h') : PassKnown cfg h' := by
  have hconsistent := hplaced.consistent
  have hawake {scanner : Registry.Scanner String Node Node} (hscanner : h.registry.scanner = scanner)
      (hbusy : scanner ≠ .idle) (hpass : h.pass = none) : False :=
    hbusy (hscanner.symm.trans (hh.asleep hpass))
  cases step_moved hstep with
  | arrived hfree => exact ⟨hh.asleep, fun ps hps => (hh.underway ps hps).arrive hfree _⟩
  | @left path n hn => exact hh.of_step hh.asleep (fun ps hps => hps.leave path) _
  | woke hpass =>
      refine ⟨nofun, ?_⟩
      intro ps hps
      obtain rfl := Option.some.inj hps
      have hidle := hh.asleep hpass
      exact ⟨fun path n hn => hn, by simp [hidle, hand], fun path n hn _ => .todo hn, by simp⟩
  | slept hpass hscanner => exact ⟨fun _ => hscanner, nofun⟩
  | yielded hpass hn hr =>
      cases Registry.step_moved hr with
      | took hscanner =>
          refine ⟨nofun, ?_⟩
          intro ps' hps'
          obtain rfl := Option.some.inj hps'
          exact (hh.underway _ hpass).yield hscanner hn
  | @tested path n r hscanner hr =>
      have hpass := hawake hscanner nofun
      cases Registry.step_moved hr with
      | @present p k hscanner' hp =>
          obtain ⟨rfl, rfl⟩ : path = p ∧ n = k := by simpa [hscanner] using hscanner'
          exact hh.of_step (fun hnone => (hpass hnone).elim)
            (fun ps hps => hps.present hconsistent hscanner hp) _
      | @absent p k hscanner' hp =>
          obtain ⟨rfl, rfl⟩ : path = p ∧ n = k := by simpa [hscanner] using hscanner'
          exact hh.of_step (fun hnone => (hpass hnone).elim) (fun ps hps => hps.absent hscanner) _
  | @inspected path n r hscanner hr =>
      have hpass := hawake hscanner nofun
      have hno (hne : inspect cfg path n.dev ≠ .watch) : ¬ Eligible cfg path n.dev :=
        mt (inspect_eq_watch_iff cfg path n.dev).mpr hne
      cases hverdict : inspect cfg path n.dev with
      | skip =>
          have hskipped := hno (by simp [hverdict])
          rw [hverdict] at hr
          cases Registry.step_moved hr with
          | skipped => exact ⟨fun _ => rfl, fun ps hps => (hh.underway ps hps).skip hscanner hskipped⟩
      | block =>
          have hblocked := hno (by simp [hverdict])
          rw [hverdict] at hr
          cases Registry.step_moved hr with
          | @recorded p k hscanner' =>
              obtain ⟨rfl, rfl⟩ : path = p ∧ n = k := by simpa [hscanner] using hscanner'
              exact ⟨fun _ => rfl, fun ps hps => (hh.underway ps hps).record hscanner hblocked⟩
      | watch =>
          rw [hverdict] at hr
          cases Registry.step_moved hr with
          | @inserted p k j hscanner' =>
              obtain ⟨rfl, rfl⟩ : path = p ∧ n = k := by simpa [hscanner] using hscanner'
              exact ⟨fun hnone => (hpass hnone).elim, fun ps hps => (hh.underway ps hps).insert hscanner⟩
  | @started r hr =>
      cases Registry.step_moved hr with
      | started hscanner =>
          exact ⟨fun _ => rfl, fun ps hps => (hh.underway ps hps).start hscanner⟩
  | @exited why i path n r htask hr =>
      cases Registry.step_moved hr with
      | @exited _ p j htask' =>
          obtain ⟨rfl, rfl⟩ : path = p ∧ n = j := by simpa [htask] using htask'
          refine hh.of_step ?_ ?_ _
          · exact hh.asleep
          · exact fun ps hps => hps.exit hconsistent htask

theorem passKnown_of_reachable {cfg : Config} {h : Hotplug} (hh : (rescan cfg).Reachable h) :
    PassKnown cfg h := by
  refine hh.invariant ?_ fun h l h' hh => passKnown_step (placed_of_reachable hh)
  rintro h rfl
  exact ⟨fun _ => rfl, nofun⟩

/-! ## passes that end -/

/-- A watcher at the path of a device is that device's own, or an earlier one's. -/
theorem served_of_hasTask {h : Hotplug} (hh : Placed h) {path : String} {n : Node}
    (hn : h.nodes.lookup path = some n) (htask : h.registry.HasTask path) : h.Served path n := by
  obtain ⟨⟨path', m⟩, hm, rfl⟩ := List.mem_map.mp htask
  cases hh.older path' m n (.inr hm) hn with
  | inl hown => exact .inl (hown ▸ hm)
  | inr hearlier => exact .inr ⟨m, hm, hearlier⟩

theorem hasTask_of_served {h : Hotplug} {path : String} {n : Node} (hserved : h.Served path n) :
    h.registry.HasTask path := by
  obtain hown | ⟨m, hm, -⟩ := hserved
  · exact List.mem_map.mpr ⟨_, hown, rfl⟩
  · exact List.mem_map.mpr ⟨_, hm, rfl⟩

/-- At the end of a pass, an eligible device is served unless its path is blocked or
has been freed. -/
theorem served_iff {cfg : Config} {h : Hotplug} {l : RescanLabel} (hh : (rescan cfg).Reachable h)
    (hends : h.Completes cfg l) {path : String} {n : Node} (hn : h.Throughout path n)
    (heligible : Eligible cfg path n.dev) : h.Served path n ↔ ¬ h.Blocked path ∧ ¬ h.Freed path := by
  have hplaced := placed_of_reachable hh
  obtain ⟨ps, hpass, hpresent⟩ := hn
  have hknown := (passKnown_of_reachable hh).underway ps hpass
  have hcurrent := hknown.current path n hpresent
  constructor
  · intro hserved
    have htask := hasTask_of_served hserved
    refine ⟨hplaced.consistent.not_recorded_of_task path htask, ?_⟩
    rintro ⟨ps', hpass', hfreed⟩
    obtain rfl : ps = ps' := Option.some.inj (hpass.symm.trans hpass')
    exact (hknown.freed path hfreed).1 htask
  · rintro ⟨hblocked, hfreed⟩
    obtain ⟨rfl, hsome⟩ := hends
    obtain ⟨h', hstep⟩ := Option.isSome_iff_exists.mp hsome
    cases step_moved hstep with
    | @slept ps' hpass' hscanner htodo =>
        -- every node has been yielded and nothing is in hand
        obtain rfl : ps = ps' := Option.some.inj (hpass.symm.trans hpass')
        cases hknown.dealt path n hpresent heligible with
        | todo htodo' =>
            have hfalse := (Table.isEmpty_eq_false_iff ps.todo).mpr ⟨path, n, htodo'⟩
            simp [htodo] at hfalse
        | inHand hhand => simp [hscanner, hand] at hhand
        | watched htask => exact served_of_hasTask hplaced hcurrent htask
        | recorded hrecorded => exact absurd hrecorded hblocked
        | freed hlost => exact absurd ⟨ps, hpass, hlost⟩ hfreed

end Hotplug

/-- **Every eligible device is served** by each pass of a run exactly if none of the
passes finds the path of one blocked, and none of the paths is freed under it. -/
theorem eligible_devices_are_served_iff (cfg : Config) (ls : List RescanLabel) :
    (rescan cfg).Along (Hotplug.PassServes cfg) .fresh ls ↔
      (rescan cfg).Along (Hotplug.Undisturbed cfg) .fresh ls := by
  refine Automaton.along_congr ?_ (.init rfl)
  intro h l hh
  refine imp_congr_right fun hends => forall_congr' fun path => forall_congr' fun n => ?_
  exact imp_congr_right fun hn => imp_congr_right fun heligible =>
    Hotplug.served_iff hh hends hn heligible

/-- The ACPI video device. -/
def videoBus : Device where
  name := some "Video Bus"
  supportedEvents := [.key]
  absState := none

def keyboard : Device where
  name := some "USB Keyboard"
  supportedEvents := [.key]
  absState := none

/-- A "Video Bus" node is recorded and goes away; a keyboard that comes to its path is
there for a whole pass, and is not watched after it. -/
theorem blocklisted_path_hides_keyboard :
    let path := "/dev/input/event5"
    let ls : List RescanLabel := [.arrive path videoBus, .wake, .yield path, .test, .inspect, .sleep,
      .leave path, .arrive path keyboard, .wake, .yield path, .test]
    (∃ h, (rescan default).run .fresh ls = some h ∧ h.Completes default .sleep ∧
      h.Throughout path ⟨1, keyboard⟩ ∧ h.registry.tasks = []) ∧
      ¬ (rescan default).Along (Hotplug.PassServes default) .fresh (ls ++ [.sleep]) := by
  intro path ls
  have hchecked : ((rescan default).run .fresh ls).any (fun h =>
      (h.step default .sleep).isSome && h.pass.any (·.present.lookup path == some ⟨1, keyboard⟩) &&
        h.registry.tasks.isEmpty) = true := by decide +kernel
  obtain ⟨h, hrun, hh⟩ := (Option.any_eq_true _ _).mp hchecked
  obtain ⟨⟨hsome, hpass⟩, htasks⟩ : ((h.step default .sleep).isSome = true ∧
      h.pass.any (·.present.lookup path == some ⟨1, keyboard⟩) = true) ∧
        h.registry.tasks.isEmpty = true := by simpa using hh
  obtain ⟨ps, hps, hlookup⟩ := (Option.any_eq_true _ _).mp hpass
  have hends : h.Completes default .sleep := ⟨rfl, hsome⟩
  have hthere : h.Throughout path ⟨1, keyboard⟩ := ⟨ps, hps, beq_iff_eq.mp hlookup⟩
  have hnone : h.registry.tasks = [] := List.isEmpty_iff.mp htasks
  refine ⟨⟨h, hrun, hends, hthere, hnone⟩, ?_⟩
  intro hserves
  have heligible : Eligible default path keyboard :=
    (inspect_eq_watch_iff default path keyboard).mp (by decide +kernel)
  have hserved := (Automaton.along_snoc.mp hserves).2 h hrun hends path _ hthere heligible
  simp [Hotplug.Served, hnone] at hserved

end Input

end GamescopeIdle
