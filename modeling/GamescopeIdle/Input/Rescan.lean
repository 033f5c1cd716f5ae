import GamescopeIdle.Input
import GamescopeIdle.Lib.Registry

/-!
# GamescopeIdle.Input.Rescan

The rescan loop of `input.rs` with its watchers, over a `/dev/input` whose devices
come and go.

A rescan pass is what `evdev::enumerate` yields: it opens the nodes one after the
other, so it yields every node that is there throughout, and may yield or miss one
that comes or goes meanwhile.  The nodes here are those that can be opened.

A watcher is live from its start until it has removed its path from the watched set.
It may end at any time and in either of its ways (`WatchEnd`), and does nothing before
that which the scanner could see.
-/

namespace GamescopeIdle

namespace Input

/-! ## nodes and passes -/

/-- A device at a node.  The arrivals are numbered, so that a device which reuses a
path has a greater number than the one that was there before. -/
structure Node where
  id : Nat
  dev : Device
deriving DecidableEq, Repr

/-- A rescan pass. -/
structure Pass where
  /-- The nodes that have been there since the pass began and have not been yielded. -/
  todo : Table String Node
  /-- The nodes that have been there since the pass began; only statements read this field. -/
  present : Table String Node
  /-- The paths whose watcher has ended since the pass tested them; only statements
  read this field. -/
  freed : Finset String

namespace Pass

def leave (ps : Pass) (path : String) : Pass :=
  { ps with todo := ps.todo.erase path, present := ps.present.erase path }

def test (ps : Pass) (path : String) : Pass := { ps with freed := ps.freed.erase path }

def free (ps : Pass) (path : String) : Pass := { ps with freed := insert path ps.freed }

end Pass

/-- `/dev/input`, the watched set with the watchers, and the rescan loop. -/
structure Hotplug where
  nodes : Table String Node
  arrivals : Nat
  registry : Registry String Node Node
  /-- The pass under way; none while the loop sleeps. -/
  pass : Option Pass

/-- How a watcher comes to its end. -/
inductive WatchEnd where
  /-- `into_event_stream` fails. -/
  | cannotStream
  /-- `next_event` fails, which breaks the loop. -/
  | streamEnded

/-- A device comes or goes, the loop makes a step, or a watcher ends. -/
inductive RescanLabel where
  | arrive (path : String) (dev : Device)
  | leave (path : String)
  | wake
  | yield (path : String)
  | test
  | inspect
  | start
  | sleep
  | exit (why : WatchEnd) (i : Nat)

/-- What a verdict is to the watched set. -/
def Verdict.label (n : Node) : Verdict → Registry.Label String Node Node
  | .skip => .skip
  | .block => .record
  | .watch => .insert n

namespace Hotplug

/-- Nothing has been plugged in or scanned. -/
def fresh : Hotplug := { nodes := ∅, arrivals := 0, registry := .empty, pass := none }

/-- A watcher takes its path out of the watched set, and is gone. -/
def remove (h : Hotplug) (i : Nat) : Option Hotplug :=
  match h.registry.tasks[i]? with
  | some (path, _) =>
      (h.registry.step (.exit i)).map fun r =>
        { h with registry := r, pass := h.pass.map (·.free path) }
  | none => none

/-- What `watch_device` does at its end. -/
def watcherEnds (h : Hotplug) (i : Nat) : WatchEnd → Option Hotplug
  | .cannotStream => h.remove i -- before the early return
  | .streamEnded => h.remove i -- after the loop

def step (cfg : Config) (h : Hotplug) : RescanLabel → Option Hotplug
  | .arrive path dev =>
      match h.nodes.lookup path with
      | none =>
          some { h with
            nodes := h.nodes.insert path { id := h.arrivals, dev := dev }
            arrivals := h.arrivals + 1 }
      | some _ => none
  | .leave path =>
      (h.nodes.lookup path).map fun _ =>
        { h with nodes := h.nodes.erase path, pass := h.pass.map (·.leave path) }
  | .wake =>
      match h.pass with
      | none => some { h with pass := some { todo := h.nodes, present := h.nodes, freed := ∅ } }
      | some _ => none
  | .yield path =>
      match h.pass, h.nodes.lookup path with
      | some ps, some n =>
          (h.registry.step (.take path n)).map fun r =>
            { h with registry := r, pass := some { ps with todo := ps.todo.erase path } }
      | _, _ => none
  | .test =>
      match h.registry.scanner with
      | .taken path _ =>
          (h.registry.step .test).map fun r =>
            { h with registry := r, pass := h.pass.map (·.test path) }
      | _ => none
  | .inspect =>
      match h.registry.scanner with
      | .tested path n =>
          (h.registry.step ((inspect cfg path n.dev).label n)).map fun r => { h with registry := r }
      | _ => none
  | .start => (h.registry.step .start).map fun r => { h with registry := r }
  | .sleep =>
      match h.pass, h.registry.scanner with
      | some ps, .idle => if ps.todo.isEmpty then some { h with pass := none } else none
      | _, _ => none
  | .exit why i => h.watcherEnds i why

end Hotplug

/-- The rescan loop, its watchers and the devices. -/
def rescan (cfg : Config) : Automaton Hotplug RescanLabel where
  init h := h = .fresh
  step := Hotplug.step cfg

@[simp] theorem step_rescan (cfg : Config) (h : Hotplug) (l : RescanLabel) :
    (rescan cfg).step h l = h.step cfg l := rfl

namespace Hotplug

/-- What a step does. -/
inductive Moved (cfg : Config) (h : Hotplug) : RescanLabel → Hotplug → Prop
  | arrived {path dev} (hfree : h.nodes.lookup path = none) :
      Moved cfg h (.arrive path dev) { h with
        nodes := h.nodes.insert path { id := h.arrivals, dev := dev }, arrivals := h.arrivals + 1 }
  | left {path n} (hn : h.nodes.lookup path = some n) :
      Moved cfg h (.leave path)
        { h with nodes := h.nodes.erase path, pass := h.pass.map (·.leave path) }
  | woke (hpass : h.pass = none) :
      Moved cfg h .wake { h with pass := some { todo := h.nodes, present := h.nodes, freed := ∅ } }
  | yielded {path ps n r} (hpass : h.pass = some ps) (hn : h.nodes.lookup path = some n)
      (hr : h.registry.step (.take path n) = some r) :
      Moved cfg h (.yield path)
        { h with registry := r, pass := some { ps with todo := ps.todo.erase path } }
  | tested {path n r} (hscanner : h.registry.scanner = .taken path n)
      (hr : h.registry.step .test = some r) :
      Moved cfg h .test { h with registry := r, pass := h.pass.map (·.test path) }
  | inspected {path n r} (hscanner : h.registry.scanner = .tested path n)
      (hr : h.registry.step ((inspect cfg path n.dev).label n) = some r) :
      Moved cfg h .inspect { h with registry := r }
  | started {r} (hr : h.registry.step .start = some r) : Moved cfg h .start { h with registry := r }
  | slept {ps} (hpass : h.pass = some ps) (hscanner : h.registry.scanner = .idle)
      (htodo : ps.todo.isEmpty = true) :
      Moved cfg h .sleep { h with pass := none }
  | exited {why i path n r} (htask : h.registry.tasks[i]? = some (path, n))
      (hr : h.registry.step (.exit i) = some r) :
      Moved cfg h (.exit why i) { h with registry := r, pass := h.pass.map (·.free path) }

/-- However a watcher ends, it removes its path. -/
theorem watcherEnds_eq_remove (h : Hotplug) (why : WatchEnd) (i : Nat) :
    h.watcherEnds i why = h.remove i := by
  cases why with
  | cannotStream => rfl
  | streamEnded => rfl

theorem step_moved {cfg : Config} {h h' : Hotplug} {l : RescanLabel} (hstep : h.step cfg l = some h') :
    Moved cfg h l h' := by
  cases l with
  | arrive path dev =>
      cases hfree : h.nodes.lookup path with
      | none =>
          simp only [step, hfree, Option.some.injEq] at hstep
          exact hstep ▸ .arrived hfree
      | some n => simp [step, hfree] at hstep
  | leave path =>
      obtain ⟨n, hn, rfl⟩ := Option.map_eq_some_iff.mp hstep
      exact .left hn
  | wake =>
      cases hpass : h.pass with
      | none =>
          simp only [step, hpass, Option.some.injEq] at hstep
          exact hstep ▸ .woke hpass
      | some ps => simp [step, hpass] at hstep
  | yield path =>
      cases hpass : h.pass with
      | none => simp [step, hpass] at hstep
      | some ps =>
          cases hn : h.nodes.lookup path with
          | none => simp [step, hpass, hn] at hstep
          | some n =>
              simp only [step, hpass, hn] at hstep
              obtain ⟨r, hr, rfl⟩ := Option.map_eq_some_iff.mp hstep
              exact .yielded hpass hn hr
  | test =>
      cases hscanner : h.registry.scanner with
      | taken path n =>
          simp only [step, hscanner] at hstep
          obtain ⟨r, hr, rfl⟩ := Option.map_eq_some_iff.mp hstep
          exact .tested hscanner hr
      | _ => simp [step, hscanner] at hstep
  | inspect =>
      cases hscanner : h.registry.scanner with
      | tested path n =>
          simp only [step, hscanner] at hstep
          obtain ⟨r, hr, rfl⟩ := Option.map_eq_some_iff.mp hstep
          exact .inspected hscanner hr
      | _ => simp [step, hscanner] at hstep
  | start =>
      obtain ⟨r, hr, rfl⟩ := Option.map_eq_some_iff.mp hstep
      exact .started hr
  | sleep =>
      cases hpass : h.pass with
      | none => simp [step, hpass] at hstep
      | some ps =>
          cases hscanner : h.registry.scanner with
          | idle =>
              simp only [step, hpass, hscanner, Option.ite_none_right_eq_some, Option.some.injEq]
                at hstep
              obtain ⟨htodo, rfl⟩ := hstep
              exact .slept hpass hscanner htodo
          | _ => simp [step, hpass, hscanner] at hstep
  | exit why i =>
      simp only [step, watcherEnds_eq_remove] at hstep
      cases htask : h.registry.tasks[i]? with
      | none => simp [remove, htask] at hstep
      | some task =>
          simp only [remove, htask] at hstep
          obtain ⟨r, hr, rfl⟩ := Option.map_eq_some_iff.mp hstep
          exact .exited htask hr

/-- A step of the loop is a step of the registry, or leaves it alone. -/
theorem registry_step {cfg : Config} {h h' : Hotplug} {l : RescanLabel}
    (hstep : h.step cfg l = some h') :
    h'.registry = h.registry ∨ ∃ l', h.registry.step l' = some h'.registry := by
  cases step_moved hstep with
  | arrived => exact .inl rfl
  | left => exact .inl rfl
  | woke => exact .inl rfl
  | slept => exact .inl rfl
  | yielded _ _ hr => exact .inr ⟨_, hr⟩
  | tested _ hr => exact .inr ⟨_, hr⟩
  | inspected _ hr => exact .inr ⟨_, hr⟩
  | started hr => exact .inr ⟨_, hr⟩
  | exited _ hr => exact .inr ⟨_, hr⟩

/-- The watched set and the watchers of the rescan loop are a registry. -/
theorem registry_of_reachable {cfg : Config} {h : Hotplug} (hh : (rescan cfg).Reachable h) :
    Registry.automaton.Reachable h.registry := by
  refine hh.simulate Hotplug.registry ?_ fun h l h' => registry_step
  rintro h rfl
  rfl

/-- A path is recorded for a blocklisted device that the scanner has found there. -/
theorem recorded_of_step {cfg : Config} {h h' : Hotplug} {l : RescanLabel}
    (hstep : h.step cfg l = some h') (path : String) (hpath : path ∈ h'.registry.recorded) :
    path ∈ h.registry.recorded ∨
      ∃ n, h.registry.scanner = .tested path n ∧ inspect cfg path n.dev = .block := by
  have hkept {r : Registry String Node Node} {l' : Registry.Label String Node Node}
      (hr : h.registry.step l' = some r) (hl' : l' ≠ .record) (hp : path ∈ r.recorded) :
      path ∈ h.registry.recorded := by
    obtain hold | ⟨hrecord, -⟩ := Registry.recorded_of_step hr hp
    · exact hold
    · exact absurd hrecord hl'
  cases step_moved hstep with
  | arrived => exact .inl hpath
  | left => exact .inl hpath
  | woke => exact .inl hpath
  | slept => exact .inl hpath
  | yielded _ _ hr => exact .inl (hkept hr nofun hpath)
  | tested _ hr => exact .inl (hkept hr nofun hpath)
  | started hr => exact .inl (hkept hr nofun hpath)
  | exited _ hr => exact .inl (hkept hr nofun hpath)
  | @inspected path' n r hscanner hr =>
      cases hverdict : inspect cfg path' n.dev with
      | skip => exact .inl (hkept hr (by simp [hverdict, Verdict.label]) hpath)
      | watch => exact .inl (hkept hr (by simp [hverdict, Verdict.label]) hpath)
      | block =>
          obtain hold | ⟨-, k, hk⟩ := Registry.recorded_of_step hr hpath
          · exact .inl hold
          · obtain ⟨rfl, rfl⟩ : path' = path ∧ n = k := by simpa [hk] using hscanner.symm
            exact .inr ⟨n, hscanner, hverdict⟩

theorem step_exit {cfg : Config} {h h' : Hotplug} {why : WatchEnd} {i : Nat}
    (hstep : h.step cfg (.exit why i) = some h') : h.registry.step (.exit i) = some h'.registry := by
  cases step_moved hstep with
  | exited _ hr => exact hr

end Hotplug

end Input

end GamescopeIdle
