import GamescopeIdle.Lib.Automaton

/-!
# Lib.Reconnect

A worker that keeps (re)connecting, and the handle that tells it what to do.

A request travels by two routes: the handle writes it to a shared value and
then sends it down the channel of the present connection, if there is one; the
worker installs a channel when it connects, reads the shared value once, and
from then on only listens to the channel.  A request to stop takes two routes as
well, a shared flag and the channel, but the worker does not read the flag
again after it has installed the channel.

* `view_eq_want` — the *value* is never lost: whenever nothing is on
  its way, what the worker shows is what was last requested;
* `along_stopIsHeard_iff` — the *stop* is lost exactly when the handle looks for a
  channel between the worker's look at the flag and its installing one.

A `Worker` says what the worker does with values and messages; nothing in this
module knows what they are.
-/

universe u

/-- What travels down the channel. -/
inductive Message (Req : Type u) where
  | request (r : Req)
  | stop

/-- What a worker does: `write` is what a request puts into the shared value,
`restore` the state of a new connection in the given circumstances, `exec` the
reaction to a message and `external` that to an event of the connection.  It
leaves its loop when it is `exiting`, at once or, if it `drains`, after more
messages. -/
structure Worker (Req V W X C : Type*) where
  initial : V
  write : Req → V
  restore : C → V → W
  exec : Message Req → W → W
  external : X → W → W
  exiting : W → Bool
  drains : Bool

namespace Reconnect

variable {Req V W X C O : Type*}

/-! ## the system -/

/-- Where the worker is. -/
inductive Phase (V W : Type*) where
  /-- About to look at the flag, at the head of its loop. -/
  | test
  /-- Connecting; the flag was not set. -/
  | connecting
  /-- Connected, and about to install a channel. -/
  | connected
  /-- The channel is installed, the connection is being set up. -/
  | init
  /-- The shared value has been read, and is about to be applied. -/
  | restoring (v : V)
  /-- In its message loop. -/
  | loop (w : W)
  /-- The connection is over and the channel's receiver dropped. -/
  | closing
  /-- The channel is uninstalled; about to look at the flag. -/
  | closed
  | sleeping
  | terminated

/-- Where the handle is. -/
inductive Caller (Req : Type*) where
  | idle
  /-- A request has been written to the shared value. -/
  | wrote (r : Req)
  /-- The flag has been set. -/
  | flagged

/-- The handle and the worker. -/
structure System (Req V W : Type*) where
  value : V
  flag : Bool := false
  /-- A channel is installed. -/
  sender : Bool := false
  queue : List (Message Req) := []
  phase : Phase V W := .test
  caller : Caller Req := .idle
  /-- The last request made (history). -/
  last : Option Req := none
  /-- A request to stop has returned (history). -/
  stopped : Bool := false

/-- A step of the handle or of the worker. -/
inductive Label (Req X C : Type*) where
  | write (r : Req)
  | send
  | setFlag
  | sendStop
  | test
  | connect
  | install
  | read
  | apply (c : C)
  | recv
  | external (x : X)
  | leave
  | fail
  | uninstall
  | retest
  | wake

namespace Phase

/-- The worker holds the receiver of the installed channel. -/
def receives : Phase V W → Bool
  | init | restoring _ | loop _ => true
  | _ => false

/-- A channel is installed. -/
def installed : Phase V W → Bool
  | init | restoring _ | loop _ | closing => true
  | _ => false

/-- Between the look at the flag and the installing of a channel. -/
def blind : Phase V W → Bool
  | connecting | connected => true
  | _ => false

end Phase

namespace System

/-- Send down the installed channel; a message to a dropped receiver is lost. -/
def post (m : Message Req) (s : System Req V W) : System Req V W :=
  if s.sender && s.phase.receives then { s with queue := s.queue ++ [m] } else s

/-- The connection ends: the receiver and what is queued are dropped. -/
def drop (s : System Req V W) : System Req V W := { s with queue := [], phase := .closing }

/-- One step of worker `B`, or of the handle. -/
def step (B : Worker Req V W X C) (s : System Req V W) : Label Req X C → Option (System Req V W)
  | .write r =>
      match s.caller with
      | .idle => some { s with value := B.write r, caller := .wrote r, last := some r }
      | _ => none
  | .send =>
      match s.caller with
      | .wrote r => some { s.post (.request r) with caller := .idle }
      | _ => none
  | .setFlag =>
      match s.caller with
      | .idle => some { s with flag := true, caller := .flagged }
      | _ => none
  | .sendStop =>
      match s.caller with
      | .flagged => some { s.post .stop with caller := .idle, stopped := true }
      | _ => none
  | .test =>
      match s.phase with
      | .test => some { s with phase := if s.flag then .terminated else .connecting }
      | _ => none
  | .connect =>
      match s.phase with
      | .connecting => some { s with phase := .connected }
      | _ => none
  | .install =>
      match s.phase with
      | .connected => some { s with sender := true, queue := [], phase := .init }
      | _ => none
  | .read =>
      match s.phase with
      | .init => some { s with phase := .restoring s.value }
      | _ => none
  | .apply c =>
      match s.phase with
      | .restoring v => some { s with phase := .loop (B.restore c v) }
      | _ => none
  | .recv =>
      match s.phase, s.queue with
      | .loop w, m :: queue =>
          if B.exiting w && !B.drains then none
          else some { s with queue := queue, phase := .loop (B.exec m w) }
      | _, _ => none
  | .external x =>
      match s.phase with
      | .loop w => some { s with phase := .loop (B.external x w) }
      | _ => none
  | .leave =>
      match s.phase with
      | .loop w => if B.exiting w then some s.drop else none
      | _ => none
  | .fail =>
      match s.phase with
      | .connecting => some { s with phase := .closed }
      | .init | .restoring _ | .loop _ => some s.drop
      | _ => none
  | .uninstall =>
      match s.phase with
      | .closing => some { s with sender := false, phase := .closed }
      | _ => none
  | .retest =>
      match s.phase with
      | .closed => some { s with phase := if s.flag then .terminated else .sleeping }
      | _ => none
  | .wake =>
      match s.phase with
      | .sleeping => some { s with phase := .test }
      | _ => none

end System

/-- The automaton of a handle and its worker. -/
def automaton (B : Worker Req V W X C) : Automaton (System Req V W) (Label Req X C) where
  init s := s = { value := B.initial }
  step := System.step B

/-! ## inversion of a step -/

/-- Everything one step can do. -/
inductive Moved (B : Worker Req V W X C) (s : System Req V W) :
    Label Req X C → System Req V W → Prop
  | wrote {r : Req} (h : s.caller = .idle) :
      Moved B s (.write r) { s with value := B.write r, caller := .wrote r, last := some r }
  | sent {r : Req} (h : s.caller = .wrote r) :
      Moved B s .send { s.post (.request r) with caller := .idle }
  | flagged (h : s.caller = .idle) : Moved B s .setFlag { s with flag := true, caller := .flagged }
  | sentStop (h : s.caller = .flagged) :
      Moved B s .sendStop { s.post .stop with caller := .idle, stopped := true }
  | tested (h : s.phase = .test) :
      Moved B s .test { s with phase := if s.flag then .terminated else .connecting }
  | connected (h : s.phase = .connecting) : Moved B s .connect { s with phase := .connected }
  | installed (h : s.phase = .connected) :
      Moved B s .install { s with sender := true, queue := [], phase := .init }
  | read (h : s.phase = .init) : Moved B s .read { s with phase := .restoring s.value }
  | applied {c : C} {v : V} (h : s.phase = .restoring v) :
      Moved B s (.apply c) { s with phase := .loop (B.restore c v) }
  | received {w : W} {m : Message Req} {queue : List (Message Req)} (h : s.phase = .loop w)
      (hqueue : s.queue = m :: queue) :
      Moved B s .recv { s with queue := queue, phase := .loop (B.exec m w) }
  | external {w : W} {x : X} (h : s.phase = .loop w) :
      Moved B s (.external x) { s with phase := .loop (B.external x w) }
  | left {w : W} (h : s.phase = .loop w) (hexit : B.exiting w = true) : Moved B s .leave s.drop
  | unreachable (h : s.phase = .connecting) : Moved B s .fail { s with phase := .closed }
  | failed (h : s.phase.receives = true) : Moved B s .fail s.drop
  | uninstalled (h : s.phase = .closing) :
      Moved B s .uninstall { s with sender := false, phase := .closed }
  | retested (h : s.phase = .closed) :
      Moved B s .retest { s with phase := if s.flag then .terminated else .sleeping }
  | woken (h : s.phase = .sleeping) : Moved B s .wake { s with phase := .test }

variable {B : Worker Req V W X C}

/-- **Inversion of a step**: a step does one of the things `Moved` lists. -/
theorem step_moved {s t : System Req V W} {l : Label Req X C} (h : s.step B l = some t) :
    Moved B s l t := by
  cases l with
  | recv =>
      cases hphase : s.phase with
      | loop w =>
          cases hqueue : s.queue with
          | nil => simp [System.step, hphase, hqueue] at h
          | cons m queue =>
              simp only [System.step, hphase, hqueue, Option.ite_none_left_eq_some,
                Option.some.injEq] at h
              rw [← h.2]
              exact .received hphase hqueue
      | _ => simp [System.step, hphase] at h
  | leave =>
      cases hphase : s.phase with
      | loop w =>
          simp only [System.step, hphase, Option.ite_none_right_eq_some, Option.some.injEq] at h
          rw [← h.2]
          exact .left hphase h.1
      | _ => simp [System.step, hphase] at h
  | fail =>
      cases hphase : s.phase with
      | connecting =>
          simp only [System.step, hphase, Option.some.injEq] at h
          rw [← h]
          exact .unreachable hphase
      | init =>
          simp only [System.step, hphase, Option.some.injEq] at h
          rw [← h]
          exact .failed (by rw [hphase]; rfl)
      | restoring v =>
          simp only [System.step, hphase, Option.some.injEq] at h
          rw [← h]
          exact .failed (by rw [hphase]; rfl)
      | loop w =>
          simp only [System.step, hphase, Option.some.injEq] at h
          rw [← h]
          exact .failed (by rw [hphase]; rfl)
      | _ => simp [System.step, hphase] at h
  | _ =>
      simp only [System.step] at h
      split at h
      · next hcase =>
          rw [Option.some.injEq] at h
          rw [← h]
          first
            | exact .wrote hcase
            | exact .sent hcase
            | exact .flagged hcase
            | exact .sentStop hcase
            | exact .tested hcase
            | exact .connected hcase
            | exact .installed hcase
            | exact .read hcase
            | exact .applied hcase
            | exact .external hcase
            | exact .uninstalled hcase
            | exact .retested hcase
            | exact .woken hcase
      · contradiction

/-! ## the wiring -/

/-- The sender is installed while the worker has not uninstalled it, messages
wait only where the worker can receive them, and a request to stop has set the
flag. -/
structure Wired (s : System Req V W) : Prop where
  sender : s.sender = s.phase.installed
  queue : s.phase.receives = false → s.queue = []
  flagged : s.caller = .flagged → s.flag = true

theorem installed_of_receives {p : Phase V W} (h : p.receives = true) : p.installed = true := by
  cases p <;> simp_all [Phase.receives, Phase.installed]

@[simp] theorem value_post (s : System Req V W) (m : Message Req) :
    (s.post m).value = s.value := by
  unfold System.post
  split <;> rfl

@[simp] theorem last_post (s : System Req V W) (m : Message Req) : (s.post m).last = s.last := by
  unfold System.post
  split <;> rfl

@[simp] theorem phase_post (s : System Req V W) (m : Message Req) :
    (s.post m).phase = s.phase := by
  unfold System.post
  split <;> rfl

@[simp] theorem stopped_post (s : System Req V W) (m : Message Req) :
    (s.post m).stopped = s.stopped := by
  unfold System.post
  split <;> rfl

@[simp] theorem flag_post (s : System Req V W) (m : Message Req) : (s.post m).flag = s.flag := by
  unfold System.post
  split <;> rfl

/-- In a wired system a message is queued exactly when the worker can receive it. -/
theorem Wired.post_eq {s : System Req V W} (h : Wired s) (m : Message Req) :
    s.post m = if s.phase.receives then { s with queue := s.queue ++ [m] } else s := by
  unfold System.post
  cases hreceives : s.phase.receives with
  | false => simp
  | true => simp [h.sender, installed_of_receives hreceives]

theorem Wired.post {s : System Req V W} (h : Wired s) (m : Message Req) : Wired (s.post m) := by
  rw [h.post_eq]
  cases hreceives : s.phase.receives with
  | false => exact h
  | true =>
      constructor
      · exact h.sender
      · intro hno
        simp [hreceives] at hno
      · exact h.flagged

/-- Moving on keeps the wiring where the same channel stays installed and no
receiver is dropped. -/
theorem Wired.move {s : System Req V W} (h : Wired s) {p q : Phase V W} (hphase : s.phase = p)
    (hinstalled : q.installed = p.installed) (hreceives : q.receives = false → p.receives = false) :
    Wired { s with phase := q } where
  sender := by
    rw [h.sender, hphase]
    exact hinstalled.symm
  queue hno := by
    refine h.queue ?_
    rw [hphase]
    exact hreceives hno
  flagged := h.flagged

/-- The end of a connection keeps the wiring. -/
theorem Wired.drop {s : System Req V W} (h : Wired s) (hreceives : s.phase.receives = true) :
    Wired s.drop where
  sender := h.sender.trans (installed_of_receives hreceives)
  queue _ := rfl
  flagged := h.flagged

theorem wired_step {s t : System Req V W} {l : Label Req X C} (h : Wired s)
    (hstep : s.step B l = some t) : Wired t := by
  cases step_moved hstep with
  | wrote => exact ⟨h.sender, h.queue, fun hcaller => by contradiction⟩
  | flagged => exact ⟨h.sender, h.queue, fun _ => rfl⟩
  | sent =>
      have hpost := h.post
      exact ⟨(hpost _).sender, (hpost _).queue, fun hcaller => by contradiction⟩
  | sentStop =>
      have hpost := h.post
      exact ⟨(hpost _).sender, (hpost _).queue, fun hcaller => by contradiction⟩
  | tested hphase | retested hphase =>
      exact h.move hphase (by split <;> rfl) fun _ => rfl
  | connected hphase | unreachable hphase | woken hphase => exact h.move hphase rfl id
  | read hphase | applied hphase | external hphase => exact h.move hphase rfl id
  | received hphase =>
      have hsender := h.sender
      rw [hphase] at hsender
      exact ⟨hsender, fun hno => by contradiction, h.flagged⟩
  | installed => exact ⟨rfl, fun _ => rfl, h.flagged⟩
  | left hphase => exact h.drop (by rw [hphase]; rfl)
  | failed hreceives => exact h.drop hreceives
  | uninstalled hphase => exact ⟨rfl, fun _ => h.queue (by rw [hphase]; rfl), h.flagged⟩

theorem wired_of_init {s : System Req V W} (h : (automaton B).init s) : Wired s := by
  have hs : s = { value := B.initial } := h
  rw [hs]
  exact ⟨rfl, fun _ => rfl, fun hcaller => by contradiction⟩

/-! ## the value is never lost -/

/-- What relates what the worker shows to the values wanted of it. -/
structure Faithful (B : Worker Req V W X C) (view : W → O) (want : V → O) : Prop where
  restore : ∀ c v, view (B.restore c v) = want v
  request : ∀ r w, B.exiting w = false → view (B.exec (.request r) w) = want (B.write r)
  external : ∀ x w, view (B.external x w) = view w

/-- When a worker is exiting: once it has been told to stop, and for good. -/
structure Stops (B : Worker Req V W X C) : Prop where
  request : ∀ r w, B.exiting (B.exec (.request r) w) = B.exiting w
  stop : ∀ w, B.exiting (B.exec .stop w) = true
  external : ∀ x w, B.exiting (B.external x w) = B.exiting w

/-- The last request in a queue. -/
def lastRequest : List (Message Req) → Option Req
  | [] => none
  | .stop :: queue => lastRequest queue
  | .request r :: queue => (lastRequest queue).or (some r)

@[simp] theorem lastRequest_concat_request (queue : List (Message Req)) (r : Req) :
    lastRequest (queue ++ [.request r]) = some r := by
  induction queue with
  | nil => rfl
  | cons m queue ih => cases m <;> simp [lastRequest, ih]

@[simp] theorem lastRequest_concat_stop (queue : List (Message Req)) :
    lastRequest (queue ++ [.stop]) = lastRequest queue := by
  induction queue with
  | nil => rfl
  | cons m queue ih => cases m <;> simp [lastRequest, ih]

/-- Where the worker is, it shows `o`, or will once it has applied what it read. -/
def Shows (B : Worker Req V W X C) (view : W → O) (want : V → O) (o : O) : Phase V W → Prop
  | .restoring v => want v = o
  | .loop w => B.exiting w = false → view w = o
  | _ => True

/-- The last request in the queue asks for what the shared value asks for, and
without one the worker shows it. -/
structure UpToDate (B : Worker Req V W X C) (view : W → O) (want : V → O)
    (s : System Req V W) : Prop where
  queued : ∀ r, lastRequest s.queue = some r → want (B.write r) = want s.value
  shown : lastRequest s.queue = none → Shows B view want (want s.value) s.phase

/-- No request is half done. -/
def Whole (s : System Req V W) : Prop := ∀ r, s.caller ≠ .wrote r

/-- The shared value is the last request's, and unless a request is half done
the worker is up to date with it. -/
structure Tracks (B : Worker Req V W X C) (view : W → O) (want : V → O)
    (s : System Req V W) : Prop where
  value : s.value = (s.last.map B.write).getD B.initial
  wrote : ∀ r, s.caller = .wrote r → s.last = some r
  current : Whole s → UpToDate B view want s

variable {view : W → O} {want : V → O}

theorem shows_of_not_receives {o : O} {p : Phase V W} (h : p.receives = false) :
    Shows B view want o p := by
  cases p <;> trivial

/-- A worker that cannot receive has nothing to be up to date with. -/
theorem upToDate_of_not_receives {s : System Req V W} (h : Wired s)
    (hphase : s.phase.receives = false) : UpToDate B view want s where
  queued r hr := by
    rw [h.queue hphase] at hr
    contradiction
  shown _ := shows_of_not_receives hphase

/-- What a whole request adds to the queue brings the worker up to date. -/
theorem upToDate_post_request {s : System Req V W} (h : Wired s) {r : Req}
    (hvalue : s.value = B.write r) : UpToDate B view want (s.post (.request r)) := by
  cases hreceives : s.phase.receives with
  | false =>
      have hpost : s.post (.request r) = s := by simp [h.post_eq, hreceives]
      rw [hpost]
      exact upToDate_of_not_receives h hreceives
  | true =>
      have hpost : s.post (.request r) = { s with queue := s.queue ++ [.request r] } := by
        simp [h.post_eq, hreceives]
      rw [hpost]
      constructor
      · intro r' hr'
        obtain rfl : r = r' := by simpa using hr'
        rw [hvalue]
      · intro hnone
        simp at hnone

theorem UpToDate.post_stop {s : System Req V W} (hup : UpToDate B view want s) (h : Wired s) :
    UpToDate B view want (s.post .stop) := by
  rw [h.post_eq]
  split
  · constructor
    · simpa using hup.queued
    · simpa using hup.shown
  · exact hup

/-- One message more, and the worker is still up to date. -/
theorem UpToDate.received {s : System Req V W} (hup : UpToDate B view want s)
    (hB : Faithful B view want) (hstops : Stops B) {w : W} {m : Message Req}
    {queue : List (Message Req)} (hphase : s.phase = .loop w) (hqueue : s.queue = m :: queue) :
    UpToDate B view want { s with queue := queue, phase := .loop (B.exec m w) } := by
  have hqueued := hup.queued
  have hshown := hup.shown
  rw [hqueue] at hqueued hshown
  rw [hphase] at hshown
  cases m with
  | stop =>
      constructor
      · exact hqueued
      · intro _ hexit
        rw [hstops.stop] at hexit
        contradiction
  | request r =>
      constructor
      · intro r' hr'
        exact hqueued r' (by simp only at hr'; simp [lastRequest, hr'])
      · intro hnone hexit
        have hr : lastRequest (.request r :: queue) = some r := by
          simp only at hnone
          simp [lastRequest, hnone]
        rw [hstops.request] at hexit
        rw [hB.request r w hexit]
        exact hqueued r hr

/-- A step that leaves the value, the last request and the handle alone keeps the
worker on track if it keeps it up to date. -/
theorem Tracks.of_same {s t : System Req V W} (h : Tracks B view want s)
    (hvalue : t.value = s.value) (hlast : t.last = s.last) (hcaller : t.caller = s.caller)
    (hup : UpToDate B view want s → UpToDate B view want t) : Tracks B view want t := by
  constructor
  · rw [hvalue, hlast]
    exact h.value
  · rw [hlast, hcaller]
    exact h.wrote
  · intro hwhole
    refine hup (h.current ?_)
    intro r hr
    exact hwhole r (hcaller.trans hr)

/-- Every step keeps the worker on track. -/
theorem tracks_step (hB : Faithful B view want) (hstops : Stops B) {s t : System Req V W}
    {l : Label Req X C} (hwired : Wired s) (h : Tracks B view want s) (hstep : s.step B l = some t) :
    Tracks B view want t := by
  have hwired' := wired_step hwired hstep
  cases step_moved hstep with
  | wrote =>
      constructor
      · rfl
      · intro r hr
        obtain rfl := Caller.wrote.inj hr
        rfl
      · intro hwhole
        exact absurd rfl (hwhole _)
  | @sent r hcaller =>
      have hlast := h.wrote r hcaller
      have hvalue : s.value = B.write r := by simp [h.value, hlast]
      have hup : UpToDate B view want (s.post (.request r)) :=
        upToDate_post_request hwired hvalue
      constructor
      · rw [value_post, last_post]
        exact h.value
      · intro r' hr'
        contradiction
      · intro _
        exact ⟨hup.queued, hup.shown⟩
  | flagged hcaller =>
      have hwhole : Whole s := by
        intro r hr
        simp [hcaller] at hr
      have hup := h.current hwhole
      exact ⟨h.value, fun r hr => by contradiction, fun _ => ⟨hup.queued, hup.shown⟩⟩
  | sentStop hcaller =>
      have hwhole : Whole s := by
        intro r hr
        simp [hcaller] at hr
      have hup := (h.current hwhole).post_stop hwired
      constructor
      · rw [value_post, last_post]
        exact h.value
      · intro r hr
        contradiction
      · intro _
        exact ⟨hup.queued, hup.shown⟩
  | received hphase hqueue =>
      exact h.of_same rfl rfl rfl fun hup => hup.received hB hstops hphase hqueue
  | read =>
      refine h.of_same rfl rfl rfl fun hup => ⟨hup.queued, fun _ => ?_⟩
      rfl
  | applied hphase =>
      refine h.of_same rfl rfl rfl fun hup => ⟨hup.queued, fun hnone _ => ?_⟩
      have hshown := hup.shown hnone
      rw [hphase] at hshown
      exact (hB.restore _ _).trans hshown
  | external hphase =>
      refine h.of_same rfl rfl rfl fun hup => ⟨hup.queued, fun hnone hexit => ?_⟩
      have hshown := hup.shown hnone
      rw [hphase] at hshown
      rw [hstops.external] at hexit
      exact (hB.external _ _).trans (hshown hexit)
  | tested | retested =>
      refine h.of_same rfl rfl rfl fun _ => upToDate_of_not_receives hwired' ?_
      simp only
      split <;> rfl
  | installed =>
      refine h.of_same rfl rfl rfl fun _ => ⟨fun r hr => by contradiction, fun _ => trivial⟩
  | _ => exact h.of_same rfl rfl rfl fun _ => upToDate_of_not_receives hwired' rfl

/-- In every reachable state the worker is on track. -/
theorem tracks_of_reachable (hB : Faithful B view want) (hstops : Stops B) {s : System Req V W}
    (h : (automaton B).Reachable s) : Tracks B view want s := by
  have hinv : Wired s ∧ Tracks B view want s := by
    refine h.invariant (I := fun s => Wired s ∧ Tracks B view want s) ?_ ?_
    · intro s hs
      refine ⟨wired_of_init hs, ?_⟩
      have hs' : s = { value := B.initial } := hs
      rw [hs']
      refine ⟨rfl, fun r hr => by contradiction, fun _ => ⟨fun r hr => by contradiction, ?_⟩⟩
      exact fun _ => trivial
    · intro s l t _ ih hstep
      exact ⟨wired_step ih.1 hstep, tracks_step hB hstops ih.1 ih.2 hstep⟩
  exact hinv.2

/-- **The value is never lost**: whenever no request is half done, the worker is
in its loop and its queue is empty, it shows what was last requested. -/
theorem view_eq_want (hB : Faithful B view want) (hstops : Stops B) {s : System Req V W}
    (h : (automaton B).Reachable s) {w : W} (hwhole : Whole s) (hphase : s.phase = .loop w)
    (hexit : B.exiting w = false) (hqueue : s.queue = []) :
    view w = want ((s.last.map B.write).getD B.initial) := by
  have htracks := tracks_of_reachable hB hstops h
  have hshown := (htracks.current hwhole).shown (by rw [hqueue]; rfl)
  rw [hphase] at hshown
  rw [hshown hexit, htracks.value]

/-! ## the stop -/

/-- The worker has terminated, will look at the flag before it enters its loop
again, or has a request to stop in the queue of the connection it serves. -/
def StopHeard (B : Worker Req V W X C) (s : System Req V W) : Prop :=
  match s.phase with
  | .connecting | .connected => False
  | .init | .restoring _ => .stop ∈ s.queue
  | .loop w => B.exiting w = true ∨ .stop ∈ s.queue
  | .test | .closing | .closed | .sleeping | .terminated => True

/-- After a request to stop has returned, it is heard. -/
def StopIsHeard (B : Worker Req V W X C) (s : System Req V W) (l : Label Req X C) : Prop :=
  ∀ t, s.step B l = some t → t.stopped = true → StopHeard B t

/-- The handle does not look for a channel between the worker's look at the flag
and its installing one. -/
def NotBlind (s : System Req V W) (l : Label Req X C) : Prop :=
  l = .sendStop → s.caller = .flagged → s.phase.blind = false

theorem StopHeard.of_queue {s t : System Req V W} (h : StopHeard B s) (hphase : t.phase = s.phase)
    (hqueue : .stop ∈ s.queue → .stop ∈ t.queue) : StopHeard B t := by
  unfold StopHeard at h ⊢
  rw [hphase]
  cases hs : s.phase with
  | init | restoring v =>
      rw [hs] at h
      exact hqueue h
  | loop w =>
      rw [hs] at h
      exact h.imp id hqueue
  | connecting | connected =>
      rw [hs] at h
      exact h
  | _ => trivial

theorem mem_post {s : System Req V W} {m : Message Req} (m' : Message Req) (h : m ∈ s.queue) :
    m ∈ (s.post m').queue := by
  unfold System.post
  split
  · exact List.mem_append_left _ h
  · exact h

/-- A request to stop is heard unless it is made where the worker is blind. -/
theorem stopHeard_post_stop {s : System Req V W} (h : Wired s) (hblind : s.phase.blind = false) :
    StopHeard B (s.post .stop) := by
  have hmem : s.phase.receives = true → .stop ∈ (s.post .stop).queue := by
    intro hreceives
    simp [h.post_eq, hreceives]
  unfold StopHeard
  rw [phase_post]
  cases hs : s.phase with
  | connecting | connected => simp [hs, Phase.blind] at hblind
  | init | restoring v => exact hmem (by rw [hs]; rfl)
  | loop w => exact .inr (hmem (by rw [hs]; rfl))
  | _ => trivial

theorem not_blind_of_stopHeard {s : System Req V W} (h : StopHeard B s) :
    s.phase.blind = false := by
  unfold StopHeard at h
  cases hs : s.phase <;> rw [hs] at h <;> first | rfl | contradiction

/-- What the stop needs besides the wiring. -/
structure Halting (B : Worker Req V W X C) (s : System Req V W) : Prop where
  wired : Wired s
  flag : s.stopped = true → s.flag = true
  heard : s.stopped = true → StopHeard B s

/-- A step that is not blind keeps the stop heard. -/
theorem halting_step (hstops : Stops B) {s t : System Req V W} {l : Label Req X C}
    (h : Halting B s) (hok : NotBlind s l) (hstep : s.step B l = some t) : Halting B t := by
  refine ⟨wired_step h.wired hstep, ?_, ?_⟩
  · cases step_moved hstep with
    | flagged => exact fun _ => rfl
    | sent =>
        rw [flag_post, stopped_post]
        exact h.flag
    | sentStop hcaller =>
        rw [flag_post]
        exact fun _ => h.wired.flagged hcaller
    | _ => exact h.flag
  · cases step_moved hstep with
    | wrote | flagged => exact fun hstopped => (h.heard hstopped).of_queue rfl id
    | sent =>
        rw [stopped_post]
        exact fun hstopped => (h.heard hstopped).of_queue (phase_post _ _) (mem_post _)
    | sentStop hcaller =>
        intro _
        exact (stopHeard_post_stop h.wired (hok rfl hcaller)).of_queue rfl id
    | tested hphase =>
        intro hstopped
        simp [StopHeard, h.flag hstopped]
    | connected hphase =>
        intro hstopped
        have hheard := not_blind_of_stopHeard (h.heard hstopped)
        simp [hphase, Phase.blind] at hheard
    | installed hphase =>
        intro hstopped
        have hheard := not_blind_of_stopHeard (h.heard hstopped)
        simp [hphase, Phase.blind] at hheard
    | read hphase =>
        intro hstopped
        have hheard := h.heard hstopped
        simp only [StopHeard, hphase] at hheard
        exact hheard
    | applied hphase =>
        intro hstopped
        have hheard := h.heard hstopped
        simp only [StopHeard, hphase] at hheard
        exact .inr hheard
    | @received w m queue hphase hqueue =>
        intro hstopped
        have hheard := h.heard hstopped
        simp only [StopHeard, hphase, hqueue] at hheard ⊢
        cases m with
        | stop => exact .inl (hstops.stop w)
        | request r =>
            rw [hstops.request]
            simpa using hheard
    | external hphase =>
        intro hstopped
        have hheard := h.heard hstopped
        simp only [StopHeard, hphase] at hheard ⊢
        rw [hstops.external]
        exact hheard
    | retested =>
        intro hstopped
        simp [StopHeard, h.flag hstopped]
    | _ => exact fun _ => trivial

/-- **When a stop is lost**: in a run, every request to stop is heard from its
return on exactly if the handle never looks for a channel where the worker is
blind. -/
theorem along_stopIsHeard_iff (hstops : Stops B) {s : System Req V W} {ls : List (Label Req X C)}
    (hs : (automaton B).init s) :
    (automaton B).Along (StopIsHeard B) s ls ↔ (automaton B).Along NotBlind s ls := by
  constructor
  · refine Automaton.Along.mono ?_
    intro s l hheard hl hcaller
    subst hl
    have hstep : s.step B .sendStop =
        some { s.post .stop with caller := .idle, stopped := true } := by
      simp [System.step, hcaller]
    have hblind := not_blind_of_stopHeard (hheard _ hstep rfl)
    rwa [phase_post] at hblind
  · intro hok
    have hinit : Halting B s := by
      have hs' : s = { value := B.initial } := hs
      refine ⟨wired_of_init hs, ?_, ?_⟩ <;> rw [hs'] <;> exact fun hno => by contradiction
    have hstep : ∀ s l t, Halting B s → NotBlind s l → (automaton B).step s l = some t →
        Halting B t := fun s l t h hP hst => halting_step hstops h hP hst
    refine (hok.and_invariant hstep hinit).mono ?_
    intro s l h t ht hstopped
    exact (halting_step hstops h.1 h.2 ht).heard hstopped

end Reconnect
