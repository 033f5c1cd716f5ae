import GamescopeIdle.Lib.Reconnect

/-!
# Lib.Reconnect.Runs

Tools for statements about all runs with given requests.

* `run_congr` — two workers that react alike to the requests a run makes have the
  same run, so what a worker gets wrong about other requests does not matter;
* `Restricts.reachable` — a worker to which less happens goes no other way;
* `within_of_reachable` — what every request and every reconnect keeps of the worker
  holds of it in every run;
* `run_serves` — from its loop, a worker can be made to execute any requests, one
  after the other;
* `leads_to_loop` — a worker that has not been told to stop can get to its loop and
  empty its queue, from wherever a run has left it.
-/

universe u

namespace Reconnect

variable {Req V W X C : Type*}

/-- The requests that the labels of a run make. -/
def requests (ls : List (Label Req X C)) : List Req :=
  ls.filterMap fun
    | .write r => some r
    | _ => none

theorem requests_append (ls ls' : List (Label Req X C)) :
    requests (ls ++ ls') = requests ls ++ requests ls' := List.filterMap_append

/-! ## comparing workers -/

/-- The workers differ at most in how they execute a request that is not `ok`. -/
structure AgreeOn (ok : Req → Prop) (B B' : Worker Req V W X C) : Prop where
  initial : B.initial = B'.initial
  write : B.write = B'.write
  restore : B.restore = B'.restore
  external : B.external = B'.external
  exiting : B.exiting = B'.exiting
  drains : B.drains = B'.drains
  stop : B.exec .stop = B'.exec .stop
  request : ∀ r, ok r → B.exec (.request r) = B'.exec (.request r)

/-- Every request on its way is `ok`. -/
structure OnlyOk (ok : Req → Prop) (s : System Req V W) : Prop where
  queued : ∀ r, .request r ∈ s.queue → ok r
  wrote : ∀ r, s.caller = .wrote r → ok r

variable {ok : Req → Prop} {B B' : Worker Req V W X C}

/-- A step depends on the worker only through the message it executes. -/
theorem step_congr (hB : AgreeOn ok B B') {s : System Req V W} (hs : OnlyOk ok s)
    (l : Label Req X C) : s.step B l = s.step B' l := by
  cases l with
  | write r => simp only [System.step, hB.write]
  | apply c => simp only [System.step, hB.restore]
  | external x => simp only [System.step, hB.external]
  | leave => simp only [System.step, hB.exiting]
  | recv =>
      cases hphase : s.phase with
      | loop w =>
          cases hqueue : s.queue with
          | nil => simp only [System.step, hphase, hqueue]
          | cons m queue =>
              have hexec : B.exec m = B'.exec m := by
                cases m with
                | stop => exact hB.stop
                | request r => exact hB.request r (hs.queued r (by simp [hqueue]))
              simp only [System.step, hphase, hqueue, hB.exiting, hB.drains, hexec]
      | _ => simp only [System.step, hphase]
  | _ => rfl

theorem onlyOk_post_request {s : System Req V W} (hs : OnlyOk ok s) {r : Req} (hr : ok r) :
    OnlyOk ok (s.post (.request r)) := by
  unfold System.post
  split
  · refine ⟨?_, hs.wrote⟩
    intro r' hr'
    cases List.mem_append.mp hr' with
    | inl hold => exact hs.queued r' hold
    | inr hnew =>
        obtain rfl : r' = r := by simpa using hnew
        exact hr
  · exact hs

theorem onlyOk_post_stop {s : System Req V W} (hs : OnlyOk ok s) : OnlyOk ok (s.post .stop) := by
  unfold System.post
  split
  · refine ⟨?_, hs.wrote⟩
    intro r hr
    cases List.mem_append.mp hr with
    | inl hold => exact hs.queued r hold
    | inr hnew => simp at hnew
  · exact hs

theorem onlyOk_step {s t : System Req V W} {l : Label Req X C} (hs : OnlyOk ok s)
    (hl : ∀ r, l = .write r → ok r) (hstep : s.step B l = some t) : OnlyOk ok t := by
  cases step_moved hstep with
  | wrote =>
      refine ⟨hs.queued, ?_⟩
      intro r' hr'
      obtain rfl := Caller.wrote.inj hr'
      exact hl _ rfl
  | @sent r hcaller =>
      have hpost := onlyOk_post_request hs (hs.wrote r hcaller)
      exact ⟨hpost.queued, fun _ hr => by contradiction⟩
  | flagged => exact ⟨hs.queued, fun _ hr => by contradiction⟩
  | sentStop =>
      have hpost := onlyOk_post_stop hs
      exact ⟨hpost.queued, fun _ hr => by contradiction⟩
  | received hphase hqueue =>
      refine ⟨?_, hs.wrote⟩
      intro r hr
      exact hs.queued r (by rw [hqueue]; exact List.mem_cons_of_mem _ hr)
  | installed => exact ⟨fun _ hr => by contradiction, hs.wrote⟩
  | left => exact ⟨fun _ hr => by contradiction, hs.wrote⟩
  | failed => exact ⟨fun _ hr => by contradiction, hs.wrote⟩
  | _ => exact ⟨hs.queued, hs.wrote⟩

/-- **Runs agree** as far as the workers agree on the requests made. -/
theorem run_congr (hB : AgreeOn ok B B') {s : System Req V W} {ls : List (Label Req X C)}
    (hs : OnlyOk ok s) (hls : ∀ r ∈ requests ls, ok r) :
    (automaton B).run s ls = (automaton B').run s ls := by
  induction ls generalizing s with
  | nil => rfl
  | cons l ls ih =>
      have hsplit : requests (l :: ls) = requests [l] ++ requests ls := requests_append [l] ls
      have hl : ∀ r, l = .write r → ok r := by
        rintro r rfl
        exact hls r (by simp [requests])
      have hstep : (automaton B).step s l = (automaton B').step s l := step_congr hB hs l
      rw [Automaton.run_cons, Automaton.run_cons, ← hstep]
      cases ht : (automaton B).step s l with
      | none => rfl
      | some t =>
          have hrest : ∀ r ∈ requests ls, ok r := fun r hr => hls r (by simp [hsplit, hr])
          exact ih (onlyOk_step hs hl ht) hrest

/-- Whatever happens to `B'` can happen to `B`, or changes nothing. -/
structure Restricts {X' C' : Type*} (B' : Worker Req V W X' C') (B : Worker Req V W X C) :
    Prop where
  initial : B'.initial = B.initial
  write : B'.write = B.write
  exec : B'.exec = B.exec
  exiting : B'.exiting = B.exiting
  drains : B'.drains = B.drains
  restore : ∀ c v, ∃ c', B'.restore c v = B.restore c' v
  external : ∀ x w, B'.external x w = w ∨ ∃ x', B'.external x w = B.external x' w

/-- A restricted worker goes no way that the other could not. -/
theorem Restricts.reachable {X' C' : Type*} {B' : Worker Req V W X' C'} (h : Restricts B' B)
    {s : System Req V W} (hs : (automaton B').Reachable s) : (automaton B).Reachable s := by
  refine hs.simulate id ?_ ?_
  · intro s hs
    have hs' : s = { value := B'.initial } := hs
    rw [hs', h.initial]
    rfl
  · intro s l t hstep
    replace hstep : s.step B' l = some t := hstep
    have hsame : ∀ l' : Label Req X C, s.step B l' = s.step B' l →
        t = s ∨ ∃ l', (automaton B).step s l' = some t := fun l' hl' => .inr ⟨l', hl'.trans hstep⟩
    cases l with
    | write r => exact hsame (.write r) (by simp only [System.step, h.write])
    | send => exact hsame .send rfl
    | setFlag => exact hsame .setFlag rfl
    | sendStop => exact hsame .sendStop rfl
    | test => exact hsame .test rfl
    | connect => exact hsame .connect rfl
    | install => exact hsame .install rfl
    | read => exact hsame .read rfl
    | recv => exact hsame .recv (by simp only [System.step, h.exiting, h.drains, h.exec])
    | leave => exact hsame .leave (by simp only [System.step, h.exiting])
    | fail => exact hsame .fail rfl
    | uninstall => exact hsame .uninstall rfl
    | retest => exact hsame .retest rfl
    | wake => exact hsame .wake rfl
    | apply c =>
        cases hphase : s.phase with
        | restoring v =>
            obtain ⟨c', hc'⟩ := h.restore c v
            exact hsame (.apply c') (by simp only [System.step, hphase, hc'])
        | _ => simp [System.step, hphase] at hstep
    | external x =>
        cases hphase : s.phase with
        | loop w =>
            cases h.external x w with
            | inl hnone =>
                simp only [System.step, hphase, hnone, Option.some.injEq] at hstep
                exact .inl (hstep.symm.trans (hphase ▸ rfl))
            | inr hsome =>
                obtain ⟨x', hx'⟩ := hsome
                exact hsame (.external x') (by simp only [System.step, hphase, hx'])
        | _ => simp [System.step, hphase] at hstep

/-! ## what the worker is kept within -/

/-- Reconnects and the `ok` requests keep the shared value in `J` and the worker
in `I`. -/
structure Keeps (B : Worker Req V W X C) (ok : Req → Prop) (J : V → Prop) (I : W → Prop) :
    Prop where
  initial : J B.initial
  write : ∀ r, ok r → J (B.write r)
  restore : ∀ c v, J v → I (B.restore c v)
  request : ∀ r w, ok r → I w → I (B.exec (.request r) w)
  stop : ∀ w, I w → I (B.exec .stop w)
  external : ∀ x w, I w → I (B.external x w)

/-- Every request on its way is `ok`, the shared value is in `J`, and so is the
value that is being restored, or the worker is in `I`. -/
structure Within (ok : Req → Prop) (J : V → Prop) (I : W → Prop) (s : System Req V W) : Prop where
  only : OnlyOk ok s
  value : J s.value
  restoring : ∀ v, s.phase = .restoring v → J v
  loop : ∀ w, s.phase = .loop w → I w

variable {J : V → Prop} {I : W → Prop}

/-- A step to where nothing is shown keeps the worker within. -/
theorem Within.of_not_shown {s t : System Req V W} (h : Within ok J I s) (honly : OnlyOk ok t)
    (hvalue : t.value = s.value) (hrestoring : ∀ v, t.phase ≠ .restoring v)
    (hloop : ∀ w, t.phase ≠ .loop w) : Within ok J I t where
  only := honly
  value := by
    rw [hvalue]
    exact h.value
  restoring v hv := absurd hv (hrestoring v)
  loop w hw := absurd hw (hloop w)

theorem within_step (hB : Keeps B ok J I) {s t : System Req V W} {l : Label Req X C}
    (h : Within ok J I s) (hl : ∀ r, l = .write r → ok r) (hstep : s.step B l = some t) :
    Within ok J I t := by
  have honly := onlyOk_step h.only hl hstep
  cases step_moved hstep with
  | @wrote r => exact ⟨honly, hB.write r (hl r rfl), h.restoring, h.loop⟩
  | sent | sentStop =>
      refine ⟨honly, ?_, ?_, ?_⟩
      · rw [value_post]
        exact h.value
      · rw [phase_post]
        exact h.restoring
      · rw [phase_post]
        exact h.loop
  | flagged => exact ⟨honly, h.value, h.restoring, h.loop⟩
  | read =>
      refine ⟨honly, h.value, ?_, fun w hw => by contradiction⟩
      intro v hv
      obtain rfl := Phase.restoring.inj hv
      exact h.value
  | @applied c v hphase =>
      refine ⟨honly, h.value, fun v hv => by contradiction, ?_⟩
      intro w hw
      obtain rfl := Phase.loop.inj hw
      exact hB.restore c v (h.restoring v hphase)
  | @received w m queue hphase hqueue =>
      refine ⟨honly, h.value, fun v hv => by contradiction, ?_⟩
      intro w' hw
      obtain rfl := Phase.loop.inj hw
      have hI := h.loop w hphase
      cases m with
      | stop => exact hB.stop w hI
      | request r => exact hB.request r w (h.only.queued r (by simp [hqueue])) hI
  | @external w x hphase =>
      refine ⟨honly, h.value, fun v hv => by contradiction, ?_⟩
      intro w' hw
      obtain rfl := Phase.loop.inj hw
      exact hB.external x w (h.loop w hphase)
  | tested | retested =>
      refine h.of_not_shown honly rfl (fun v => ?_) (fun w => ?_)
      · simp only
        split <;> exact fun hno => by contradiction
      · simp only
        split <;> exact fun hno => by contradiction
  | _ => exact h.of_not_shown honly rfl (fun v hno => by contradiction) (fun w hno => by contradiction)

theorem within_initial (hB : Keeps B ok J I) :
    Within ok J I ({ value := B.initial } : System Req V W) where
  only := ⟨fun r hr => by contradiction, fun r hr => by contradiction⟩
  value := hB.initial
  restoring v hv := by contradiction
  loop w hw := by contradiction

/-- What holds at the start, and is kept by every request and every reconnect, holds in
every run. -/
theorem within_of_reachable (hB : Keeps B (fun _ => True) J I) {s : System Req V W}
    (h : (automaton B).Reachable s) : Within (fun _ => True) J I s := by
  refine h.invariant ?_ ?_
  · intro s hs
    have hs' : s = { value := B.initial } := hs
    rw [hs']
    exact within_initial hB
  · intro s l t _ ih hstep
    exact within_step hB ih (fun r hr => trivial) hstep

/-! ## serving requests -/

/-- The worker is in its loop, with nothing on its way to it. -/
structure Attentive (B : Worker Req V W X C) (s : System Req V W) (w : W) : Prop where
  phase : s.phase = .loop w
  exiting : B.exiting w = false
  sender : s.sender = true
  queue : s.queue = []
  caller : s.caller = .idle

/-- The steps in which one request is made, sent and executed. -/
def serve (r : Req) : List (Label Req X C) := [.write r, .send, .recv]

theorem requests_serve (r : Req) : requests (serve (X := X) (C := C) r) = [r] := rfl

/-- One request is served. -/
theorem run_serve (hstops : Stops B) {s : System Req V W} {w : W} (h : Attentive B s w)
    (r : Req) :
    ∃ t, (automaton B).run s (serve r) = some t ∧ Attentive B t (B.exec (.request r) w) ∧
      t.value = B.write r := by
  have hexiting : B.exiting (B.exec (.request r) w) = false := (hstops.request r w).trans h.exiting
  have hrun : (automaton B).run s (serve r) = some
      { s with
        value := B.write r, queue := [], phase := .loop (B.exec (.request r) w), caller := .idle
        last := some r } := by
    simp [serve, automaton, System.step, System.post, Phase.receives, h.caller, h.sender, h.phase,
      h.queue, h.exiting]
  exact ⟨_, hrun, ⟨rfl, hexiting, h.sender, rfl, rfl⟩, rfl⟩

/-- **Requests are served** one after the other. -/
theorem run_serves (hstops : Stops B) {s : System Req V W} {w : W} (h : Attentive B s w)
    (rs : List Req) : ∃ t w', (automaton B).run s (rs.flatMap serve) = some t ∧ Attentive B t w' := by
  induction rs generalizing s w with
  | nil => exact ⟨s, w, rfl, h⟩
  | cons r rs ih =>
      obtain ⟨t, ht, hattentive, -⟩ := run_serve hstops h r
      obtain ⟨t', w', ht', hattentive'⟩ := ih hattentive
      refine ⟨t', w', ?_, hattentive'⟩
      rw [List.flatMap_cons, Automaton.run_append, ht, Option.bind_some]
      exact ht'

theorem requests_serves (rs : List Req) :
    requests (rs.flatMap (serve (X := X) (C := C))) = rs := by
  induction rs with
  | nil => rfl
  | cons r rs ih => rw [List.flatMap_cons, requests_append, ih, requests_serve, List.singleton_append]

/-! ## coming to rest -/

/-- What holds while no request to stop has been made: the worker can go on. -/
structure Unstopped (B : Worker Req V W X C) (s : System Req V W) : Prop where
  queue : .stop ∉ s.queue
  exiting : ∀ w, s.phase = .loop w → B.exiting w = false
  alive : s.phase ≠ .terminated

/-- Without a request to stop, a step that neither makes one nor executes one keeps
the worker going. -/
theorem unstopped_step (hstops : Stops B) (hfresh : ∀ c v, B.exiting (B.restore c v) = false)
    {s t : System Req V W} {l : Label Req X C} (hwired : Wired s) (h : Unstopped B s)
    (hflag : t.flag = false) (hstep : s.step B l = some t) : Unstopped B t := by
  cases step_moved hstep with
  | wrote => exact ⟨h.queue, h.exiting, h.alive⟩
  | @sent r =>
      refine ⟨?_, ?_, ?_⟩
      · intro hmem
        rw [hwired.post_eq] at hmem
        split at hmem
        · exact h.queue (by simpa using hmem)
        · exact h.queue hmem
      · rw [phase_post]
        exact h.exiting
      · rw [phase_post]
        exact h.alive
  | flagged => contradiction
  | sentStop hcaller =>
      rw [flag_post, hwired.flagged hcaller] at hflag
      contradiction
  | tested | retested =>
      have hflag : s.flag = false := hflag
      rw [hflag]
      exact ⟨h.queue, fun w hw => by contradiction, fun hw => by contradiction⟩
  | installed => exact ⟨by simp, fun w hw => by contradiction, fun hw => by contradiction⟩
  | @applied c v =>
      refine ⟨h.queue, ?_, fun hw => by contradiction⟩
      intro w hw
      obtain rfl := Phase.loop.inj hw
      exact hfresh c v
  | @received w m queue hphase hqueue =>
      have hold := h.queue
      rw [hqueue] at hold
      refine ⟨fun hmem => hold (List.mem_cons_of_mem m hmem), ?_, fun hw => by contradiction⟩
      intro w' hw
      obtain rfl := Phase.loop.inj hw
      cases m with
      | stop => simp at hold
      | request r => exact (hstops.request r w).trans (h.exiting w hphase)
  | @external w x hphase =>
      refine ⟨h.queue, ?_, fun hw => by contradiction⟩
      intro w' hw
      obtain rfl := Phase.loop.inj hw
      exact (hstops.external x w).trans (h.exiting w hphase)
  | left | failed => exact ⟨by simp [System.drop], fun w hw => by contradiction, fun hw => by contradiction⟩
  | _ => exact ⟨h.queue, fun w hw => by contradiction, fun hw => by contradiction⟩

/-- The flag is only ever set. -/
theorem flag_of_step {s t : System Req V W} {l : Label Req X C} (hstep : s.step B l = some t)
    (hflag : t.flag = false) : s.flag = false := by
  cases step_moved hstep with
  | flagged => contradiction
  | sent | sentStop =>
      rw [flag_post] at hflag
      exact hflag
  | _ => exact hflag

theorem unstopped_of_reachable (hstops : Stops B) (hfresh : ∀ c v, B.exiting (B.restore c v) = false)
    {s : System Req V W} (h : (automaton B).Reachable s) (hflag : s.flag = false) :
    Unstopped B s := by
  have hinv : Wired s ∧ (s.flag = false → Unstopped B s) := by
    refine h.invariant (I := fun s => Wired s ∧ (s.flag = false → Unstopped B s)) ?_ ?_
    · intro s hs
      refine ⟨wired_of_init hs, fun _ => ?_⟩
      have hs' : s = { value := B.initial } := hs
      rw [hs']
      exact ⟨by simp, fun w hw => by contradiction, fun hw => by contradiction⟩
    · intro s l t _ ih hstep
      refine ⟨wired_step ih.1 hstep, fun hflag => ?_⟩
      exact unstopped_step hstops hfresh ih.1 (ih.2 (flag_of_step hstep hflag)) hflag hstep
  exact hinv.2 hflag

/-- How many steps of its own the worker is away from its loop and an empty queue. -/
def rank (s : System Req V W) : Nat :=
  match s.phase with
  | .closing => 8
  | .closed => 7
  | .sleeping => 6
  | .test => 5
  | .connecting => 4
  | .connected => 3
  | .init => s.queue.length + 2
  | .restoring _ => s.queue.length + 1
  | .loop _ => s.queue.length
  | .terminated => 0

/-- A step in which the worker gets on. -/
def Label.isProgress : Label Req X C → Bool
  | test | connect | install | read | apply _ | recv | uninstall | retest | wake => true
  | _ => false

/-- The worker, with nothing of the handle's changed since `s₀`. -/
structure Going (B : Worker Req V W X C) (s₀ s : System Req V W) : Prop where
  wired : Wired s
  unstopped : Unstopped B s
  flag : s.flag = false
  caller : s.caller = s₀.caller

/-- A worker that is not at rest can get on. -/
theorem progress_step (hstops : Stops B) (hfresh : ∀ c v, B.exiting (B.restore c v) = false)
    (c : C) {s₀ s : System Req V W} (h : Going B s₀ s) (hrank : rank s ≠ 0) :
    ∃ l t, l.isProgress = true ∧ s.step B l = some t ∧ Going B s₀ t ∧ rank t < rank s := by
  have hgo : ∀ {l t}, s.step B l = some t → t.flag = s.flag → t.caller = s.caller →
      Going B s₀ t := by
    intro l t hstep hflag hcaller
    have hflag' : t.flag = false := hflag.trans h.flag
    exact ⟨wired_step h.wired hstep, unstopped_step hstops hfresh h.wired h.unstopped hflag' hstep,
      hflag', hcaller.trans h.caller⟩
  cases hphase : s.phase with
  | terminated => exact absurd hphase h.unstopped.alive
  | closing =>
      have hstep : s.step B .uninstall = some { s with sender := false, phase := .closed } := by
        simp [System.step, hphase]
      exact ⟨.uninstall, _, rfl, hstep, hgo hstep rfl rfl, by simp [rank, hphase]⟩
  | closed =>
      have hstep : s.step B .retest = some { s with phase := .sleeping } := by
        simp [System.step, hphase, h.flag]
      exact ⟨.retest, _, rfl, hstep, hgo hstep rfl rfl, by simp [rank, hphase]⟩
  | sleeping =>
      have hstep : s.step B .wake = some { s with phase := .test } := by
        simp [System.step, hphase]
      exact ⟨.wake, _, rfl, hstep, hgo hstep rfl rfl, by simp [rank, hphase]⟩
  | test =>
      have hstep : s.step B .test = some { s with phase := .connecting } := by
        simp [System.step, hphase, h.flag]
      exact ⟨.test, _, rfl, hstep, hgo hstep rfl rfl, by simp [rank, hphase]⟩
  | connecting =>
      have hstep : s.step B .connect = some { s with phase := .connected } := by
        simp [System.step, hphase]
      exact ⟨.connect, _, rfl, hstep, hgo hstep rfl rfl, by simp [rank, hphase]⟩
  | connected =>
      have hstep : s.step B .install =
          some { s with sender := true, queue := [], phase := .init } := by
        simp [System.step, hphase]
      exact ⟨.install, _, rfl, hstep, hgo hstep rfl rfl, by simp [rank, hphase]⟩
  | init =>
      have hstep : s.step B .read = some { s with phase := .restoring s.value } := by
        simp [System.step, hphase]
      exact ⟨.read, _, rfl, hstep, hgo hstep rfl rfl, by simp [rank, hphase]⟩
  | restoring v =>
      have hstep : s.step B (.apply c) = some { s with phase := .loop (B.restore c v) } := by
        simp [System.step, hphase]
      exact ⟨.apply c, _, rfl, hstep, hgo hstep rfl rfl, by simp [rank, hphase]⟩
  | loop w =>
      cases hqueue : s.queue with
      | nil => simp [rank, hphase, hqueue] at hrank
      | cons m queue =>
          have hstep : s.step B .recv = some { s with queue := queue, phase := .loop (B.exec m w) } := by
            simp [System.step, hphase, hqueue, h.unstopped.exiting w hphase]
          exact ⟨.recv, _, rfl, hstep, hgo hstep rfl rfl, by simp [rank, hphase, hqueue]⟩

/-- **A worker that has not been told to stop can always come to rest** in its loop
with an empty queue, by steps of its own. -/
theorem leads_to_loop (hstops : Stops B) (hfresh : ∀ c v, B.exiting (B.restore c v) = false)
    (c : C) {s : System Req V W} (h : (automaton B).Reachable s) (hflag : s.flag = false) :
    ∃ t w, (automaton B).Leads (fun l => l.isProgress = true) s t ∧ t.phase = .loop w ∧
      B.exiting w = false ∧ t.queue = [] ∧ t.caller = s.caller := by
  have hwired : Wired s :=
    h.invariant (fun _ => wired_of_init) fun _ _ _ _ ih hstep => wired_step ih hstep
  have hgoing : Going B s s := ⟨hwired, unstopped_of_reachable hstops hfresh h hflag, hflag, rfl⟩
  obtain ⟨t, hleads, ht, hrest⟩ := Automaton.leads_to_rest (A := automaton B) rank
    (fun s' h' hrank => progress_step hstops hfresh c h' hrank) hgoing
  cases hphase : t.phase with
  | loop w =>
      have hqueue : t.queue = [] := by simpa [rank, hphase] using hrest
      exact ⟨t, w, hleads, hphase, ht.unstopped.exiting w hphase, hqueue, ht.caller⟩
  | terminated => exact absurd hphase ht.unstopped.alive
  | _ => simp [rank, hphase] at hrest

/-- The worker has a connection. -/
def Phase.linked : Phase V W → Bool
  | connected | init | restoring _ | loop _ => true
  | _ => false

/-- A step in which the worker sets up or serves its connection. -/
def Label.isService : Label Req X C → Bool
  | install | read | apply _ | recv => true
  | _ => false

/-- A worker with a connection gets on by serving it. -/
theorem linked_step {s t : System Req V W} {l : Label Req X C} (hlinked : s.phase.linked = true)
    (hl : l.isProgress = true) (hstep : s.step B l = some t) :
    t.phase.linked = true ∧ l.isService = true := by
  cases step_moved hstep with
  | installed | read | applied | received => exact ⟨rfl, rfl⟩
  | tested hphase | connected hphase | uninstalled hphase | retested hphase | woken hphase =>
      simp [hphase, Phase.linked] at hlinked
  | _ => simp [Label.isProgress] at hl

/-- A worker with a connection comes to rest in its loop by serving it. -/
theorem leads_to_loop_linked (hstops : Stops B)
    (hfresh : ∀ c v, B.exiting (B.restore c v) = false) (c : C) {s : System Req V W}
    (h : (automaton B).Reachable s) (hflag : s.flag = false) (hlinked : s.phase.linked = true) :
    ∃ t w, (automaton B).Leads (fun l => l.isService = true) s t ∧
      t.phase = .loop w ∧ B.exiting w = false ∧ t.queue = [] := by
  have hwired : Wired s :=
    h.invariant (fun _ => wired_of_init) fun _ _ _ _ ih hstep => wired_step ih hstep
  have hgoing : Going B s s := ⟨hwired, unstopped_of_reachable hstops hfresh h hflag, hflag, rfl⟩
  have hstep : ∀ s', Going B s s' ∧ s'.phase.linked = true → rank s' ≠ 0 →
      ∃ l t, l.isService = true ∧ (automaton B).step s' l = some t ∧
        (Going B s t ∧ t.phase.linked = true) ∧ rank t < rank s' := by
    intro s' hs' hrank
    obtain ⟨l, t, hl, ht, hgo, hlt⟩ := progress_step hstops hfresh c hs'.1 hrank
    obtain ⟨hlinked', hservice⟩ := linked_step hs'.2 hl ht
    exact ⟨l, t, hservice, ht, ⟨hgo, hlinked'⟩, hlt⟩
  obtain ⟨t, hleads, ⟨ht, -⟩, hrest⟩ :=
    Automaton.leads_to_rest (A := automaton B) rank hstep ⟨hgoing, hlinked⟩
  cases hphase : t.phase with
  | loop w =>
      have hqueue : t.queue = [] := by simpa [rank, hphase] using hrest
      exact ⟨t, w, hleads, hphase, ht.unstopped.exiting w hphase, hqueue⟩
  | terminated => exact absurd hphase ht.unstopped.alive
  | _ => simp [rank, hphase] at hrest

/-- A worker that has a connection or tries for one can lose it. -/
theorem leads_to_over {s : System Req V W} (h : s.phase = .connecting ∨ s.phase.linked = true) :
    ∃ t, (automaton B).Leads (fun l => l = .install ∨ l = .fail) s t ∧
      (t.phase = .closing ∨ t.phase = .closed) := by
  cases hphase : s.phase with
  | connecting =>
      have hstep : (automaton B).step s .fail = some { s with phase := .closed } := by
        simp [automaton, System.step, hphase]
      exact ⟨_, .of_step (.inr rfl) hstep, .inr rfl⟩
  | connected =>
      have hinstall : (automaton B).step s .install =
          some { s with sender := true, queue := [], phase := .init } := by
        simp [automaton, System.step, hphase]
      have hfail : (automaton B).step { s with sender := true, queue := [], phase := .init } .fail =
          some { s with sender := true, queue := [], phase := .closing } := rfl
      exact ⟨_, (Automaton.Leads.of_step (.inl rfl) hinstall).trans (.of_step (.inr rfl) hfail),
        .inl rfl⟩
  | init | restoring | loop =>
      have hstep : (automaton B).step s .fail = some s.drop := by
        simp [automaton, System.step, hphase]
      exact ⟨_, .of_step (.inr rfl) hstep, .inl rfl⟩
  | _ => simp [hphase, Phase.linked] at h

/-- A worker that has not been told to stop has a connection, tries for one, or can go
to sleep before it tries again. -/
theorem leads_to_sleep (hstops : Stops B)
    (hfresh : ∀ c v, B.exiting (B.restore c v) = false) {s : System Req V W}
    (h : (automaton B).Reachable s) (hflag : s.flag = false) :
    s.phase.linked = true ∨ s.phase = .test ∨ s.phase = .connecting ∨
      ∃ t, (automaton B).Leads (fun l => l = .uninstall ∨ l = .retest) s t ∧ t.phase = .sleeping ∧
        t.flag = false := by
  have hsleep : ∀ y : System Req V W, y.phase = .closed → y.flag = false →
      (automaton B).Leads (fun l => l = .uninstall ∨ l = .retest) y
        { y with phase := .sleeping } := by
    intro y hphase hflag
    have hstep : (automaton B).step y .retest = some { y with phase := .sleeping } := by
      simp [automaton, System.step, hphase, hflag]
    exact .of_step (.inr rfl) hstep
  cases hphase : s.phase with
  | terminated => exact absurd hphase (unstopped_of_reachable hstops hfresh h hflag).alive
  | closing =>
      have hstep : (automaton B).step s .uninstall =
          some { s with sender := false, phase := .closed } := by
        simp [automaton, System.step, hphase]
      have hclosed : (automaton B).Leads (fun l => l = .uninstall ∨ l = .retest) s
          { s with sender := false, phase := .closed } := .of_step (.inl rfl) hstep
      exact .inr (.inr (.inr ⟨_, hclosed.trans (hsleep _ rfl hflag), rfl, hflag⟩))
  | closed => exact .inr (.inr (.inr ⟨_, hsleep s hphase hflag, rfl, hflag⟩))
  | sleeping => exact .inr (.inr (.inr ⟨s, .refl s, hphase, hflag⟩))
  | test => exact .inr (.inl rfl)
  | connecting => exact .inr (.inr (.inl rfl))
  | _ => exact .inl rfl

/-- A step in which the worker is told to stop, and does. -/
def Label.isEnding : Label Req X C → Bool
  | recv | leave | uninstall | retest => true
  | _ => false

/-- A worker that is exiting gets to its end, if the flag is set. -/
theorem leads_to_end_exiting {s : System Req V W} {w : W} (hphase : s.phase = .loop w)
    (hexit : B.exiting w = true) (hflag : s.flag = true) :
    (automaton B).Leads (fun l => l.isEnding = true) s
      { s with sender := false, queue := [], phase := .terminated } := by
  have hleave : (automaton B).step s .leave = some s.drop := by
    simp [automaton, System.step, hphase, hexit]
  have huninstall : (automaton B).step s.drop .uninstall =
      some { s with sender := false, queue := [], phase := .closed } := rfl
  have hretest : (automaton B).step { s with sender := false, queue := [], phase := .closed } .retest =
      some { s with sender := false, queue := [], phase := .terminated } := by
    simp [automaton, System.step, hflag]
  have hending {l : Label Req X C} {x y : System Req V W} (hl : l.isEnding = true)
      (h : (automaton B).step x l = some y) :
      (automaton B).Leads (fun l => l.isEnding = true) x y := .of_step hl h
  exact ((hending rfl hleave).trans (hending rfl huninstall)).trans (hending rfl hretest)

/-- A worker in its loop that is told to stop gets to its end, whatever it is asked
before. -/
theorem leads_to_end (hstops : Stops B) {s : System Req V W} {w : W} (hphase : s.phase = .loop w)
    (hexit : B.exiting w = false) (hflag : s.flag = true) (hstop : .stop ∈ s.queue) :
    ∃ t, (automaton B).Leads (fun l => l.isEnding = true) s t ∧ t.phase = .terminated ∧
      t.caller = s.caller := by
  generalize hqueue : s.queue = queue at hstop
  induction queue generalizing s w with
  | nil => simp at hstop
  | cons m queue ih =>
      have hrecv : (automaton B).step s .recv =
          some { s with queue := queue, phase := .loop (B.exec m w) } := by
        simp [automaton, System.step, hphase, hqueue, hexit]
      have hhead := Automaton.Leads.of_step (P := fun l => l.isEnding = true) rfl hrecv
      cases m with
      | stop =>
          exact ⟨_, hhead.trans (leads_to_end_exiting rfl (hstops.stop w) hflag), rfl, rfl⟩
      | request r =>
          obtain ⟨t, ht, hend, hcaller⟩ :=
            ih (s := { s with queue := queue, phase := .loop (B.exec (.request r) w) }) rfl
              ((hstops.request r w).trans hexit) hflag rfl (by simpa using hstop)
          exact ⟨t, hhead.trans ht, hend, hcaller⟩

end Reconnect
