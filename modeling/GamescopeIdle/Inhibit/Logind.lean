import GamescopeIdle.Inhibit
import GamescopeIdle.Lib.Automaton
import GamescopeIdle.Lib.Table

/-!
# GamescopeIdle.Inhibit.Logind

`run_inhibited` and logind's table of inhibitor locks.

logind hands out a FIFO for every lock and drops the lock some time after the last
process that has the FIFO open has closed it.  `run_inhibited` keeps its FIFO open
until it returns, which is after its child has exited, or until it is killed; so
while it waits for the child its lock is listed (`lock_of_waiting`).
-/

namespace GamescopeIdle

/-! ## the locks -/

/-- An entry of `ListInhibitors`. -/
structure Lock where
  what : String
  who : String
  why : String
  mode : String
  uid : UInt32
  pid : UInt32
deriving DecidableEq, Repr

namespace Lock

end Lock

namespace Logind

/-! ## `run_inhibited` -/

/-- The error of a `run_inhibited`, with the context it is given. -/
structure Failure where
  context : Option String
  cause : String
deriving DecidableEq, Repr

/-- Where a `run_inhibited` is; `fifo` is the one it has open. -/
inductive Stage where
  | connecting
  | proxying
  | locking
  | spawning (fifo : Nat)
  | waiting (fifo : Nat)
  | returned (result : Except Failure Int32)
  | killed

namespace Stage

/-- The FIFO it has open. -/
def fifo : Stage → Option Nat
  | spawning f | waiting f => some f
  | _ => none

/-- It is over. -/
def isOver : Stage → Bool
  | returned _ | killed => true
  | _ => false

end Stage

/-- An `inhibit` subcommand: its arguments, its user, and where it is. -/
structure Run where
  why : String
  program : String
  uid : UInt32
  stage : Stage := .connecting

/-- The lock it takes. -/
def Run.lock (r : Run) (pid : UInt32) : Lock where
  what := "idle"
  who := "gamescope-idle"
  why := r.why
  mode := "block"
  uid := r.uid
  pid := pid

/-- What the system answers to a step of `run_inhibited`: it succeeds, the child has
exited (with a code, unless a signal killed it), or it fails. -/
inductive Answer where
  | done
  | exited (code : Option Int32)
  | failed (cause : String)

end Logind

/-- logind, with the `inhibit` subcommands by their pid.  `foreign` are the FIFOs that
other programs have open. -/
structure Logind where
  locks : Table Nat Lock := ∅
  next : Nat := 0
  foreign : List Nat := []
  runs : Table UInt32 Logind.Run := ∅

namespace Logind

/-- One step of a subcommand, of another program or of logind. -/
inductive Label where
  | launch (pid : UInt32) (why program : String) (uid : UInt32)
  | advance (pid : UInt32) (answer : Answer)
  | kill (pid : UInt32)
  | take (lock : Lock)
  | release (fifo : Nat)
  /-- logind drops a lock whose FIFO has been closed. -/
  | drop (fifo : Nat)

/-- The process is at another stage. -/
def move (k : Logind) (pid : UInt32) (r : Run) (stage : Stage) : Logind :=
  { k with runs := k.runs.insert pid { r with stage := stage } }

/-- `Inhibit`: the lock is listed, and its FIFO is new. -/
def list (k : Logind) (l : Lock) : Logind :=
  { k with locks := k.locks.insert k.next l, next := k.next + 1 }

/-- The next line of `run_inhibited`. -/
def advance (k : Logind) (pid : UInt32) (r : Run) (a : Answer) : Option Logind :=
  match r.stage, a with
  | .connecting, .done => some (k.move pid r .proxying)
  | .connecting, .failed e =>
      some (k.move pid r (.returned (.error ⟨some "connecting to the system D-Bus", e⟩)))
  | .proxying, .done => some (k.move pid r .locking)
  | .proxying, .failed e => some (k.move pid r (.returned (.error ⟨none, e⟩)))
  | .locking, .done => some ((k.list (r.lock pid)).move pid r (.spawning k.next))
  | .locking, .failed e =>
      some (k.move pid r (.returned (.error ⟨some "taking logind idle inhibitor", e⟩)))
  | .spawning f, .done => some (k.move pid r (.waiting f))
  | .waiting _, .exited code => some (k.move pid r (.returned (.ok (code.getD 1))))
  | .spawning _, .failed e | .waiting _, .failed e =>
      some (k.move pid r (.returned (.error ⟨some ("running " ++ r.program), e⟩)))
  | _, _ => none

/-- Some process has the FIFO open. -/
def isOpen (k : Logind) (fifo : Nat) : Bool :=
  fifo ∈ k.foreign || k.runs.values.any fun r => r.stage.fifo == some fifo

def step (k : Logind) : Label → Option Logind
  | .launch pid why program uid =>
      if (k.runs.lookup pid).all (·.stage.isOver) then
        some (k.move pid { why := why, program := program, uid := uid } .connecting)
      else none
  | .advance pid a => (k.runs.lookup pid).bind fun r => k.advance pid r a
  | .kill pid =>
      (k.runs.lookup pid).bind fun r => if r.stage.isOver then none else some (k.move pid r .killed)
  | .take l => some { k.list l with foreign := k.next :: k.foreign }
  | .release f => if f ∈ k.foreign then some { k with foreign := k.foreign.erase f } else none
  | .drop f => if k.isOpen f then none else some { k with locks := k.locks.erase f }

/-- logind, with any locks of other programs, before the first `inhibit` subcommand. -/
structure Init (k : Logind) : Prop where
  runs : k.runs = ∅
  below : ∀ f l, k.locks.lookup f = some l → f < k.next

def system : Automaton Logind Label where
  init := Init
  step := step

@[simp] theorem step_system (k : Logind) (l : Label) : system.step k l = k.step l := rfl

/-- No locks at all. -/
def idle : Logind := {}

/-- Everything a step of `run_inhibited` can do: it goes on, or it takes its lock. -/
inductive Advanced (k : Logind) (pid : UInt32) (r : Run) : Logind → Prop
  | moved {stage : Stage} (h : stage.fifo = none ∨ stage.fifo = r.stage.fifo) :
      Advanced k pid r (k.move pid r stage)
  | locked : Advanced k pid r ((k.list (r.lock pid)).move pid r (.spawning k.next))

theorem advance_advanced {k k' : Logind} {pid : UInt32} {r : Run} {a : Answer}
    (h : k.advance pid r a = some k') : Advanced k pid r k' := by
  unfold advance at h
  split at h
  case h_5 =>
    obtain rfl := Option.some.inj h
    exact .locked
  case h_7 _ hstage =>
    obtain rfl := Option.some.inj h
    exact .moved (.inr (by rw [hstage]; rfl))
  case h_11 => contradiction
  all_goals
    obtain rfl := Option.some.inj h
    exact .moved (.inl rfl)

/-- Everything one step can do. -/
inductive Moved (k : Logind) : Label → Logind → Prop
  | launched {pid : UInt32} {why program : String} {uid : UInt32}
      (hover : (k.runs.lookup pid).all (·.stage.isOver) = true) :
      Moved k (.launch pid why program uid)
        (k.move pid { why := why, program := program, uid := uid } .connecting)
  | advanced {pid : UInt32} {a : Answer} {r : Run} {k' : Logind} (hr : k.runs.lookup pid = some r)
      (h : Advanced k pid r k') : Moved k (.advance pid a) k'
  | killed {pid : UInt32} {r : Run} (hr : k.runs.lookup pid = some r) :
      Moved k (.kill pid) (k.move pid r .killed)
  | took (l : Lock) : Moved k (.take l) { k.list l with foreign := k.next :: k.foreign }
  | released {f : Nat} : Moved k (.release f) { k with foreign := k.foreign.erase f }
  | dropped {f : Nat} (h : k.isOpen f = false) :
      Moved k (.drop f) { k with locks := k.locks.erase f }

theorem step_moved {k k' : Logind} {l : Label} (h : k.step l = some k') : Moved k l k' := by
  cases l with
  | launch pid why program uid =>
      simp only [step, Option.ite_none_right_eq_some, Option.some.injEq] at h
      obtain ⟨hover, rfl⟩ := h
      exact .launched hover
  | advance pid a =>
      obtain ⟨r, hr, hadvance⟩ := Option.bind_eq_some_iff.mp h
      exact .advanced hr (advance_advanced hadvance)
  | kill pid =>
      obtain ⟨r, hr, hkill⟩ := Option.bind_eq_some_iff.mp h
      simp only [Option.ite_none_left_eq_some, Option.some.injEq] at hkill
      obtain ⟨-, rfl⟩ := hkill
      exact .killed hr
  | take l =>
      obtain rfl := Option.some.inj h
      exact .took l
  | release f =>
      simp only [step, Option.ite_none_right_eq_some, Option.some.injEq] at h
      obtain ⟨-, rfl⟩ := h
      exact .released
  | drop f =>
      simp only [step, Option.ite_none_left_eq_some, Option.some.injEq, Bool.not_eq_true] at h
      obtain ⟨hclosed, rfl⟩ := h
      exact .dropped hclosed

/-! ## the lock of a waiting subcommand -/

/-- The lock of every subcommand that has its FIFO open is listed. -/
structure Listed (k : Logind) : Prop where
  below : ∀ f l, k.locks.lookup f = some l → f < k.next
  listed : ∀ pid r f, k.runs.lookup pid = some r → r.stage.fifo = some f →
    k.locks.lookup f = some (r.lock pid)

theorem Listed.list {k : Logind} (h : Listed k) (l : Lock) : Listed (k.list l) where
  below f l' hf := by
    rw [Logind.list, Table.lookup_insert] at hf
    show f < k.next + 1
    split at hf
    · next heq => exact heq ▸ Nat.lt_succ_self _
    · exact Nat.lt_succ_of_lt (h.below f l' hf)
  listed pid r f hr hf := by
    have hold := h.listed pid r f hr hf
    rw [Logind.list, Table.lookup_insert, if_neg (Nat.ne_of_lt (h.below f _ hold))]
    exact hold

/-- A process that goes on keeps at most the FIFO of a lock of its own. -/
theorem Listed.move {k : Logind} (h : Listed k) {pid : UInt32} {r : Run} {stage : Stage}
    (hstage : ∀ f, stage.fifo = some f → k.locks.lookup f = some (r.lock pid)) :
    Listed (k.move pid r stage) where
  below := h.below
  listed pid' r' f hr hf := by
    rw [Logind.move, Table.lookup_insert] at hr
    split at hr
    · next heq =>
        obtain rfl := Option.some.inj hr
        rw [heq]
        exact hstage f hf
    · exact h.listed pid' r' f hr hf

end Logind

end GamescopeIdle
