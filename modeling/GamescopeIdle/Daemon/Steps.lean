import GamescopeIdle.Daemon

/-!
# GamescopeIdle.Daemon.Steps

What one step of the main loop can do.

`step_moved` inverts a step once and for all: the constructor of `Moved` tells
which part of the daemon moved, and every invariant of the loop is a case split
on it.  `reachable_machine` then connects the loop to the automaton of the
machine alone: until the loop is left, its machine is in a state that a
sequence of events leads to.
-/

namespace GamescopeIdle

namespace Loc

/-- The place without what the accepted client has sent. -/
def erase : Loc → Loc
  | reading _ chosen queued => reading {} chosen queued
  | l => l

@[simp] theorem erase_eq_top {l : Loc} : l.erase = top ↔ l = top := by
  cases l <;> simp [erase]

@[simp] theorem erase_eq_select {l : Loc} : l.erase = select ↔ l = select := by
  cases l <;> simp [erase]

@[simp] theorem erase_eq_stopped {l : Loc} : l.erase = stopped ↔ l = stopped := by
  cases l <;> simp [erase]

@[simp] theorem erase_eq_handling {l : Loc} {b : Branch} {t : Instant} {q : Bool} :
    l.erase = handling b t q ↔ l = handling b t q := by
  cases l <;> simp [erase]

/-- When the branch that is being handled was chosen. -/
def chosen? : Loc → Option Instant
  | handling _ chosen _ => some chosen
  | reading _ chosen _ => some chosen
  | _ => none

@[simp] theorem chosen?_erase (l : Loc) : l.erase.chosen? = l.chosen? := by
  cases l <;> rfl

end Loc

namespace Daemon

/-! ## inversion of a step -/

/-- Nothing but the clock, the signals and the clients has changed. -/
structure Frame (d d' : Daemon) : Prop where
  machine : d'.machine = d.machine
  clock : d.clock ≤ d'.clock
  deadline : d'.deadline = d.deadline
  loc : d'.loc.erase = d.loc.erase
  queued : d'.queued = d.queued
  log : d'.log = d.log

/-- Everything one step can do to the daemon. -/
inductive Moved (d : Daemon) : Label → Daemon → Prop
  /-- Time passes, a signal arrives or a client moves. -/
  | outside {l : Label} {d' : Daemon} (hl : l.isDaemon = false) (h : Frame d d') : Moved d l d'
  /-- A watcher reports activity: a notification is queued or being received. -/
  | reported {w : Watcher} {handover : Bool} (queued : Bool) (hrun : d.Running)
      (hkeep : d.queued = true → queued = true)
      (hqueued : queued = true ∨ ∃ t q, d.loc = .handling .recv t q) :
      Moved d (.trySend w handover)
        { d with queued := queued, log := d.log ++ [.reported d.clock] }
  /-- The `select!` picks a ready branch. -/
  | chose {b : Branch} (hloc : d.loc = .select) (hready : d.ready b = true) :
      Moved d (.choose b) (d.take b)
  /-- A handler changes the machine. -/
  | ran {a : Answers} {e : Event} {chosen : Instant} {queued : Bool}
      (h : d.current a = some (e, chosen, queued)) : Moved d (.start a) (d.exec a e chosen queued)
  /-- The loop goes round. -/
  | finished (hloc : d.loc = .top) :
      Moved d .finish { d with deadline := nextDeadline d.machine d.clock, loc := .select }
  /-- The loop is left. -/
  | left {s : Signal} {a : Answers} (hloc : d.loc = .select) :
      Moved d (.stop s a) { d with machine := d.machine.shutdown (d.env a), loc := .stopped }

theorem frame_raise (s : Signal) (d : Daemon) : Frame d (d.raise s) := by
  constructor <;> cases s <;> simp [raise]

theorem frame_modifyClient {client : Option Nat} {f : Client → Client} {d d' : Daemon}
    (h : d.modifyClient client f = some d') : Frame d d' := by
  cases client with
  | some i =>
      simp only [modifyClient, Option.ite_none_right_eq_some, Option.some.injEq] at h
      obtain ⟨-, rfl⟩ := h
      constructor <;> simp
  | none =>
      simp only [modifyClient] at h
      split at h
      · next c chosen queued hloc =>
          rw [Option.some.injEq] at h
          rw [← h]
          constructor <;> simp [hloc, Loc.erase]
      · contradiction

theorem frame_clientStep {s : ClientStep} {d d' : Daemon} (h : d.clientStep s = some d') :
    Frame d d' := by
  cases s with
  | connect =>
      rw [clientStep, Option.some.injEq] at h
      rw [← h]
      constructor <;> simp
  | send client bytes => exact frame_modifyClient h
  | close client how => exact frame_modifyClient h

theorem trySend_moved {w : Watcher} {handover : Bool} {d d' : Daemon}
    (h : d.trySend handover = some d') : Moved d (.trySend w handover) d' := by
  simp only [trySend, Option.ite_none_left_eq_some, Option.some.injEq] at h
  obtain ⟨hrun, rfl⟩ := h
  refine .reported _ hrun (fun hq => by simp [hq]) ?_
  split
  · next t q hloc => exact .inr ⟨t, q, hloc⟩
  · exact .inl (by simp)

/-- **Inversion of a step**: a step does one of the things `Moved` lists. -/
theorem step_moved {l : Label} {d d' : Daemon} (h : d.step l = some d') : Moved d l d' := by
  cases l with
  | tick elapsed =>
      rw [step, Option.some.injEq] at h
      rw [← h]
      refine .outside rfl ?_
      constructor <;> simp
  | trySend w handover => exact trySend_moved h
  | raise s =>
      rw [step, Option.some.injEq] at h
      rw [← h]
      exact .outside rfl (frame_raise s d)
  | client s => exact .outside rfl (frame_clientStep h)
  | choose b =>
      simp only [step, choose, Option.ite_none_right_eq_some, Option.some.injEq] at h
      obtain ⟨⟨hloc, hready⟩, rfl⟩ := h
      exact .chose hloc hready
  | start a =>
      simp only [step, start, Option.map_eq_some_iff] at h
      obtain ⟨⟨e, chosen, queued⟩, hcurrent, rfl⟩ := h
      exact .ran hcurrent
  | finish =>
      simp only [step, finish, Option.ite_none_right_eq_some, Option.some.injEq] at h
      obtain ⟨hloc, rfl⟩ := h
      exact .finished hloc
  | stop s a =>
      simp only [step, stop, Option.ite_none_right_eq_some, Option.some.injEq] at h
      obtain ⟨⟨hloc, -⟩, rfl⟩ := h
      exact .left hloc

/-! ## choosing a branch -/

/-- Where the loop is once a branch has been chosen. -/
inductive Taken (d : Daemon) : Branch → Loc → Prop
  | handler {b : Branch} (hb : b ≠ .accept) (hb' : b ≠ .acceptFailed) :
      Taken d b (.handling b d.clock d.queued)
  | accepted (c : Client) : Taken d .accept (.reading c d.clock d.queued)
  | failed : Taken d .acceptFailed .top

theorem loc_take {d : Daemon} {b : Branch} (h : d.ready b = true) : Taken d b (d.take b).loc := by
  cases b with
  | accept =>
      cases hc : d.backlog with
      | nil => simp [ready, hc] at h
      | cons c cs =>
          have hloc : (d.take .accept).loc = .reading c d.clock d.queued := by simp [take, hc]
          rw [hloc]
          exact .accepted c
  | acceptFailed => exact .failed
  | _ => exact .handler (by simp) (by simp)

theorem handling_of_take {d : Daemon} {b c : Branch} {t : Instant} {q : Bool}
    (hready : d.ready b = true) (h : (d.take b).loc = .handling c t q) :
    b = c ∧ d.clock = t ∧ d.queued = q := by
  have htaken := loc_take hready
  generalize (d.take b).loc = l at h htaken
  cases htaken with
  | handler => simpa using h
  | _ => simp at h

@[simp] theorem machine_take (d : Daemon) (b : Branch) : (d.take b).machine = d.machine := by
  cases b <;> simp only [take]
  split <;> rfl

@[simp] theorem clock_take (d : Daemon) (b : Branch) : (d.take b).clock = d.clock := by
  cases b <;> simp only [take]
  split <;> rfl

@[simp] theorem log_take (d : Daemon) (b : Branch) : (d.take b).log = d.log := by
  cases b <;> simp only [take]
  split <;> rfl

/-- Only `recv` empties the channel. -/
theorem queued_take (d : Daemon) (b : Branch) :
    (d.take b).queued = if b = .recv then false else d.queued := by
  cases b <;> simp [take]
  split <;> rfl

/-! ## running a handler -/

/-- Where the loop is when the handler of an event runs. -/
inductive Runs (a : Answers) : Loc → Event → Instant → Bool → Prop
  | activity {t : Instant} {q : Bool} : Runs a (.handling .recv t q) .activity t q
  | timeout {t : Instant} {q : Bool} :
      Runs a (.handling .timer t q) (.timeout a.inhibit a.screensaver) t q
  | sigusr1 {t : Instant} {q : Bool} : Runs a (.handling .sigusr1 t q) .sigusr1 t q
  | sigusr2 {t : Instant} {q : Bool} : Runs a (.handling .sigusr2 t q) .sigusr2 t q
  | control {c : Client} {line : Option String} {t : Instant} {q : Bool}
      (h : c.readLine = some line) : Runs a (.reading c t q) (.control line) t q

theorem current_runs {a : Answers} {d : Daemon} {e : Event} {t : Instant} {q : Bool}
    (h : d.current a = some (e, t, q)) : Runs a d.loc e t q := by
  unfold current at h
  split at h
  case h_5 c _ _ hloc =>
    obtain ⟨line, hline, heq⟩ := Option.map_eq_some_iff.mp h
    obtain ⟨rfl, rfl, rfl⟩ : _ ∧ _ ∧ _ := by simpa using heq
    rw [hloc]
    exact .control hline
  case h_6 => contradiction
  all_goals
    -- a branch with a handler of its own
    next hloc =>
      obtain ⟨rfl, rfl, rfl⟩ : _ ∧ _ ∧ _ := by simpa using h
      rw [hloc]
      constructor

theorem Runs.chosen {a : Answers} {l : Loc} {e : Event} {t : Instant} {q : Bool}
    (h : Runs a l e t q) : l.chosen? = some t := by
  cases h <;> rfl

/-- The timer's handler runs where the timer has been chosen. -/
theorem Runs.of_isTimeout {a : Answers} {l : Loc} {e : Event} {t : Instant} {q : Bool}
    (h : Runs a l e t q) (he : e.isTimeout = true) : l = .handling .timer t q := by
  cases h with
  | timeout => rfl
  | _ => simp [Event.isTimeout] at he

/-- The record of a handler that runs now. -/
def record (a : Answers) (e : Event) (chosen : Instant) (queued : Bool) (d : Daemon) : Handled where
  event := e
  chosen := chosen
  time := d.clock
  queued := queued
  before := d.machine.state
  after := (d.machine.handle (d.env a) e).state

theorem log_exec (a : Answers) (e : Event) (chosen : Instant) (queued : Bool) (d : Daemon) :
    (d.exec a e chosen queued).log = d.log ++ [.handled (d.record a e chosen queued)] := rfl

@[simp] theorem handledOf_append (l₁ l₂ : List Happening) :
    handledOf (l₁ ++ l₂) = handledOf l₁ ++ handledOf l₂ := List.filterMap_append

@[simp] theorem handled_exec (a : Answers) (e : Event) (chosen : Instant) (queued : Bool)
    (d : Daemon) :
    (d.exec a e chosen queued).handled = d.handled ++ [d.record a e chosen queued] := by
  simp [handled, log_exec, handledOf]

/-! ## the loop runs the machine -/

/-- **The loop refines the machine**: until the loop is left, its machine is in
a state that some sequence of events leads to. -/
theorem reachable_machine {d : Daemon} (h : loop.Reachable d) :
    d.Running → Machine.automaton.Reachable d.machine := by
  refine h.invariant (I := fun d => d.Running → Machine.automaton.Reachable d.machine)
    ?_ ?_
  · intro s hs _
    exact .init (Init.machine hs)
  · intro d l d' _ ih hstep hrun
    cases step_moved hstep with
    | outside _ hf =>
        rw [hf.machine]
        refine ih fun hstop => hrun ?_
        rw [← Loc.erase_eq_stopped, hf.loc, hstop]
        rfl
    | reported _ hr => exact ih hr
    | chose hloc =>
        rw [machine_take]
        exact ih (by simp [Running, hloc])
    | ran hc =>
        refine Machine.reachable_handle (ih fun hstop => ?_) _ _
        simp [current, hstop] at hc
    | finished hloc => exact ih (by simp [Running, hloc])
    | left => exact absurd rfl hrun

end Daemon

end GamescopeIdle
