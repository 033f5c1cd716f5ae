import GamescopeIdle.Lib.Reconnect.Runs

/-!
# Lib.Reconnect.Driven

A program that drives the handle of a reconnecting worker.

The program is an automaton whose steps ask the handle for something, in order.
A request takes the handle two steps, between which the worker may move, so the
three run interleaved (`Driven`): the program goes on once everything it has
asked for has been done, while what surrounds it (`outside`) never waits.

* `fits_of_reachable` — from what one step of the program asks for to what the
  handle was last asked for, over whole runs;
* `view_fits_driver` — and from there to what the worker shows;
* `drivenWithin_step` — what every request and every reconnect keeps of the worker
  holds of it at any moment, also with requests on their way.
-/

namespace Reconnect

variable {σ ε Req V W X C O : Type*}

variable {B : Worker Req V W X C} {ok : Req → Prop} {J : V → Prop} {I : W → Prop}

/-! ## driving the handle -/

/-- A program that drives a handle: what a step asks of it, and which labels are
steps of what surrounds the program. -/
structure Driver (σ ε Req : Type*) where
  auto : Automaton σ ε
  asks : σ → ε → List (Message Req)
  outside : ε → Bool

/-- The program, with what it still has to ask of the handle, and the handle with
its worker. -/
structure Driven (σ Req V W : Type*) where
  driver : σ
  todo : List (Message Req) := []
  system : System Req V W

/-- A step of the program, of the handle or of the worker. -/
inductive DrivenLabel (ε Req X C : Type*) where
  | drive (e : ε)
  | handle
  | worker (l : Label Req X C)

/-- A step of the handle. -/
def Label.isHandle : Label Req X C → Bool
  | write _ | send | setFlag | sendStop => true
  | _ => false

/-- No request is half done. -/
def Caller.isIdle : Caller Req → Bool
  | idle => true
  | _ => false

namespace Driven

/-- Everything that was asked for has been done. -/
def Settled (s : Driven σ Req V W) : Prop := s.todo = [] ∧ s.system.caller.isIdle = true

instance (s : Driven σ Req V W) : Decidable s.Settled :=
  match h : s.todo with
  | [] => decidable_of_iff (s.system.caller.isIdle = true) (by simp [Settled, h])
  | _ :: _ => isFalse (by simp [Settled, h])

/-- The next step of the handle: the second half of a request, or the first half
of the next one. -/
def handle (B : Worker Req V W X C) (s : Driven σ Req V W) : Option (Driven σ Req V W) :=
  match s.system.caller, s.todo with
  | .wrote _, _ => (s.system.step B .send).map fun y => { s with system := y }
  | .flagged, _ => (s.system.step B .sendStop).map fun y => { s with system := y }
  | .idle, .request r :: todo =>
      (s.system.step B (.write r)).map fun y => { s with todo := todo, system := y }
  | .idle, .stop :: todo =>
      (s.system.step B .setFlag).map fun y => { s with todo := todo, system := y }
  | .idle, [] => none

def step (P : Driver σ ε Req) (B : Worker Req V W X C) (s : Driven σ Req V W) :
    DrivenLabel ε Req X C → Option (Driven σ Req V W)
  | .drive e =>
      if P.outside e = true ∨ s.Settled then
        (P.auto.step s.driver e).map fun d =>
          { s with driver := d, todo := s.todo ++ P.asks s.driver e }
      else none
  | .handle => s.handle B
  | .worker l =>
      if l.isHandle then none else (s.system.step B l).map fun y => { s with system := y }

end Driven

/-- The automaton of a program and the handle and worker it drives. -/
def driven (P : Driver σ ε Req) (B : Worker Req V W X C) :
    Automaton (Driven σ Req V W) (DrivenLabel ε Req X C) where
  init s := ∃ d, P.auto.init d ∧ s = { driver := d, system := { value := B.initial } }
  step := Driven.step P B

/-! ## inversion of a step -/

/-- Everything one step can do. -/
inductive DrivenMoved (P : Driver σ ε Req) (B : Worker Req V W X C) (s : Driven σ Req V W) :
    DrivenLabel ε Req X C → Driven σ Req V W → Prop
  /-- The program, or what surrounds it. -/
  | drove {e : ε} {d : σ} (hfree : P.outside e = true ∨ s.Settled)
      (h : P.auto.step s.driver e = some d) :
      DrivenMoved P B s (.drive e) { s with driver := d, todo := s.todo ++ P.asks s.driver e }
  /-- The first half of a request. -/
  | began {m : Message Req} {l : Label Req X C} {todo : List (Message Req)}
      {y : System Req V W} (htodo : s.todo = m :: todo)
      (hl : (∃ r, m = .request r ∧ l = .write r) ∨ (m = .stop ∧ l = .setFlag))
      (h : s.system.step B l = some y) :
      DrivenMoved P B s .handle { s with todo := todo, system := y }
  /-- The second half of a request. -/
  | ended {l : Label Req X C} {y : System Req V W} (hl : l = .send ∨ l = .sendStop)
      (h : s.system.step B l = some y) : DrivenMoved P B s .handle { s with system := y }
  | worked {l : Label Req X C} {y : System Req V W} (hl : l.isHandle = false)
      (h : s.system.step B l = some y) : DrivenMoved P B s (.worker l) { s with system := y }

variable {P : Driver σ ε Req}

/-- **Inversion of a step**: a step does one of the things `DrivenMoved` lists. -/
theorem driven_moved {s t : Driven σ Req V W} {l : DrivenLabel ε Req X C}
    (h : s.step P B l = some t) : DrivenMoved P B s l t := by
  cases l with
  | drive e =>
      simp only [Driven.step, Option.ite_none_right_eq_some, Option.map_eq_some_iff] at h
      obtain ⟨hfree, d, hd, rfl⟩ := h
      exact .drove hfree hd
  | handle =>
      simp only [Driven.step, Driven.handle] at h
      split at h
      case h_1 =>
        obtain ⟨y, hy, rfl⟩ := Option.map_eq_some_iff.mp h
        exact .ended (.inl rfl) hy
      case h_2 =>
        obtain ⟨y, hy, rfl⟩ := Option.map_eq_some_iff.mp h
        exact .ended (.inr rfl) hy
      case h_3 r todo _ htodo =>
        obtain ⟨y, hy, rfl⟩ := Option.map_eq_some_iff.mp h
        exact .began htodo (.inl ⟨r, rfl, rfl⟩) hy
      case h_4 todo _ htodo =>
        obtain ⟨y, hy, rfl⟩ := Option.map_eq_some_iff.mp h
        exact .began htodo (.inr ⟨rfl, rfl⟩) hy
      case h_5 => contradiction
  | worker l =>
      simp only [Driven.step, Option.ite_none_left_eq_some, Option.map_eq_some_iff,
        Bool.not_eq_true] at h
      obtain ⟨hl, y, hy, rfl⟩ := h
      exact .worked hl hy

/-- A step leaves the handle and its worker alone, or is one of theirs. -/
theorem system_of_moved {s t : Driven σ Req V W} {l : DrivenLabel ε Req X C}
    (h : s.step P B l = some t) :
    t.system = s.system ∨ ∃ l', s.system.step B l' = some t.system := by
  cases driven_moved h with
  | drove => exact .inl rfl
  | began _ _ hy | ended _ hy | worked _ hy => exact .inr ⟨_, hy⟩

/-- A step leaves the program alone, or is one of its own. -/
theorem driver_of_moved {s t : Driven σ Req V W} {l : DrivenLabel ε Req X C}
    (h : s.step P B l = some t) :
    t.driver = s.driver ∨ ∃ e, P.auto.step s.driver e = some t.driver := by
  cases driven_moved h with
  | drove _ hd => exact .inr ⟨_, hd⟩
  | _ => exact .inl rfl

/-- The handle and the worker run as they would under any program. -/
theorem reachable_system {s : Driven σ Req V W} (h : (driven P B).Reachable s) :
    (automaton B).Reachable s.system := by
  refine h.simulate Driven.system ?_ fun _ _ _ hstep => system_of_moved hstep
  intro s hs
  obtain ⟨d, -, rfl⟩ := hs
  rfl

/-- The program runs as it would under any handle. -/
theorem reachable_driver {s : Driven σ Req V W} (h : (driven P B).Reachable s) :
    P.auto.Reachable s.driver := by
  refine h.simulate Driven.driver ?_ fun _ _ _ hstep => driver_of_moved hstep
  intro s hs
  obtain ⟨d, hd, rfl⟩ := hs
  exact hd

/-! ## what the handle was last asked for -/

theorem lastRequest_append (l₁ l₂ : List (Message Req)) :
    lastRequest (l₁ ++ l₂) = (lastRequest l₂).or (lastRequest l₁) := by
  induction l₁ with
  | nil => simp [lastRequest]
  | cons m l₁ ih =>
      cases m with
      | stop => simpa [lastRequest] using ih
      | request r => simp [lastRequest, ih]

/-- The last request once everything asked for has been done. -/
def Driven.asked (s : Driven σ Req V W) : Option Req := (lastRequest s.todo).or s.system.last

theorem last_of_not_write {s t : System Req V W} {l : Label Req X C}
    (hl : ∀ r, l ≠ .write r) (h : s.step B l = some t) : t.last = s.last := by
  cases step_moved h with
  | wrote => exact absurd rfl (hl _)
  | sent | sentStop => exact last_post _ _
  | _ => rfl

/-- Only the program changes what the handle is asked for. -/
theorem asked_of_moved {s t : Driven σ Req V W} {l : DrivenLabel ε Req X C}
    (h : DrivenMoved P B s l t) :
    (∃ e, l = .drive e ∧ P.auto.step s.driver e = some t.driver ∧
      t.asked = (lastRequest (P.asks s.driver e)).or s.asked) ∨
    (t.driver = s.driver ∧ t.asked = s.asked) := by
  cases h with
  | drove _ h =>
      refine .inl ⟨_, rfl, h, ?_⟩
      simp only [Driven.asked, lastRequest_append, Option.or_assoc]
  | @began m l todo y htodo hl h =>
      refine .inr ⟨rfl, ?_⟩
      cases hl with
      | inl hwrite =>
          obtain ⟨r, rfl, rfl⟩ := hwrite
          have hlast : y.last = some r := by
            cases step_moved h with
            | wrote => rfl
          simp [Driven.asked, htodo, lastRequest, hlast]
      | inr hstop =>
          obtain ⟨rfl, rfl⟩ := hstop
          have hlast := last_of_not_write (fun r => by simp) h
          simp [Driven.asked, htodo, lastRequest, hlast]
  | ended hl h =>
      have hlast := last_of_not_write (fun r hr => by simp [hr] at hl) h
      exact .inr ⟨rfl, by simp [Driven.asked, hlast]⟩
  | worked hl h =>
      have hlast := last_of_not_write (fun r hr => by simp [hr, Label.isHandle] at hl) h
      exact .inr ⟨rfl, by simp [Driven.asked, hlast]⟩

/-- **What was asked for fits the program**: a relation between the program and the
last request that every step of the program keeps holds in all runs. -/
theorem fits_of_reachable {Fits : σ → Option Req → Prop}
    (hinit : ∀ d, P.auto.init d → Fits d none)
    (hstep : ∀ d e d' last, P.auto.Reachable d → Fits d last → P.auto.step d e = some d' →
      Fits d' ((lastRequest (P.asks d e)).or last))
    {s : Driven σ Req V W} (h : (driven P B).Reachable s) : Fits s.driver s.asked := by
  refine h.invariant (I := fun s => Fits s.driver s.asked) ?_ ?_
  · intro s hs
    obtain ⟨d, hd, rfl⟩ := hs
    exact hinit d hd
  · intro s l t hreach ih ht
    cases asked_of_moved (driven_moved ht) with
    | inl hdrove =>
        obtain ⟨e, -, hd, hasked⟩ := hdrove
        rw [hasked]
        exact hstep _ _ _ _ (reachable_driver hreach) ih hd
    | inr hsame =>
        rw [hsame.1, hsame.2]
        exact ih

theorem Driven.Settled.whole {s : Driven σ Req V W} (h : s.Settled) : Whole s.system := by
  intro r hr
  have hidle := h.2
  rw [hr] at hidle
  contradiction

theorem Driven.Settled.asked {s : Driven σ Req V W} (h : s.Settled) : s.asked = s.system.last := by
  simp [Driven.asked, h.1, lastRequest]

/-- **What is shown fits the program**: once everything asked for has been done and
executed, the worker shows what a request that fits the program stands for. -/
theorem view_fits_driver {view : W → O} {want : V → O} (hB : Faithful B view want)
    (hstops : Stops B) {s : Driven σ Req V W} (h : (driven P B).Reachable s) (hsettled : s.Settled)
    {w : W} (hphase : s.system.phase = .loop w) (hexit : B.exiting w = false)
    (hqueue : s.system.queue = []) :
    view w = want ((s.asked.map B.write).getD B.initial) := by
  rw [hsettled.asked]
  exact view_eq_want hB hstops (reachable_system h) hsettled.whole hphase hexit hqueue

/-! ## what is shown at any moment -/

/-- Everything the step asks for is `ok`. -/
def AsksOk (P : Driver σ ε Req) (ok : Req → Prop) (s : Driven σ Req V W) :
    DrivenLabel ε Req X C → Prop
  | .drive e => ∀ r, .request r ∈ P.asks s.driver e → ok r
  | _ => True

/-- Every request still to be made is `ok`, and the worker is within. -/
structure DrivenWithin (ok : Req → Prop) (J : V → Prop) (I : W → Prop) (s : Driven σ Req V W) :
    Prop where
  todo : ∀ r, .request r ∈ s.todo → ok r
  system : Within ok J I s.system

/-- **The worker stays within**, whatever is on its way. -/
theorem drivenWithin_step (hB : Keeps B ok J I) {s t : Driven σ Req V W}
    {l : DrivenLabel ε Req X C} (h : DrivenWithin ok J I s) (hok : AsksOk P ok s l)
    (hstep : s.step P B l = some t) : DrivenWithin ok J I t := by
  cases driven_moved hstep with
  | drove =>
      refine ⟨?_, h.system⟩
      intro r hr
      cases List.mem_append.mp hr with
      | inl hold => exact h.todo r hold
      | inr hnew => exact hok r hnew
  | @began m l todo y htodo hl hy =>
      constructor
      · intro r hr
        exact h.todo r (by rw [htodo]; exact List.mem_cons_of_mem m hr)
      · refine within_step hB h.system ?_ hy
        intro r hr
        rcases hl with ⟨r', rfl, rfl⟩ | ⟨-, rfl⟩
        · obtain rfl := Label.write.inj hr
          exact h.todo r' (by simp [htodo])
        · contradiction
  | ended hl hy =>
      refine ⟨h.todo, within_step hB h.system ?_ hy⟩
      rintro r rfl
      simp at hl
  | worked hl hy =>
      refine ⟨h.todo, within_step hB h.system ?_ hy⟩
      rintro r rfl
      simp [Label.isHandle] at hl

theorem drivenWithin_of_init (hB : Keeps B ok J I) {s : Driven σ Req V W}
    (h : (driven P B).init s) : DrivenWithin ok J I s := by
  obtain ⟨d, -, rfl⟩ := h
  exact ⟨fun r hr => by contradiction, within_initial hB⟩

/-! ## what the parts can do -/

theorem isHandle_of_isProgress {l : Label Req X C} (h : l.isProgress = true) :
    l.isHandle = false := by
  cases l <;> simp_all [Label.isProgress, Label.isHandle]

/-- Where the worker can get to, the whole can get to. -/
theorem leads_worker {Q : DrivenLabel ε Req X C → Prop} {N : Label Req X C → Prop}
    (hown : ∀ l, N l → l.isHandle = false) (hQ : ∀ l, N l → Q (.worker l))
    {s : Driven σ Req V W} {y : System Req V W} (h : (automaton B).Leads N s.system y) :
    (driven P B).Leads Q s { s with system := y } := by
  obtain ⟨ls, hls, hrun⟩ := h
  induction ls generalizing s with
  | nil =>
      rw [Automaton.run_nil, Option.some.injEq] at hrun
      rw [← hrun]
      exact .refl s
  | cons l ls ih =>
      rw [Automaton.run_cons, Option.bind_eq_some_iff] at hrun
      obtain ⟨z, hz, hrest⟩ := hrun
      have hl : N l := hls l (by simp)
      have hz' : s.system.step B l = some z := hz
      have hstep : (driven P B).step s (.worker l) = some { s with system := z } := by
        simp [driven, Driven.step, hown l hl, hz']
      have hhead := Automaton.Leads.of_step (hQ l hl) hstep
      have htail : (driven P B).Leads Q { s with system := z } { s with system := y } :=
        ih (fun l' hl' => hls l' (by simp [hl'])) hrest
      exact hhead.trans htail

/-- How many steps the handle is away from having done everything asked for. -/
def todoRank (s : Driven σ Req V W) : Nat :=
  2 * s.todo.length + if s.system.caller.isIdle then 0 else 1

/-- The handle can always do everything that was asked for. -/
theorem leads_settled {Q : DrivenLabel ε Req X C → Prop} (hQ : Q .handle) (s : Driven σ Req V W) :
    ∃ t, (driven P B).Leads Q s t ∧ t.Settled ∧ t.driver = s.driver := by
  have hstep : ∀ t : Driven σ Req V W, t.driver = s.driver → todoRank t ≠ 0 →
      ∃ l u, Q l ∧ (driven P B).step t l = some u ∧ u.driver = s.driver ∧
        todoRank u < todoRank t := by
    intro t ht hrank
    refine ⟨.handle, ?_⟩
    cases hcaller : t.system.caller with
    | wrote r =>
        refine ⟨{ t with system := { t.system.post (.request r) with caller := .idle } }, hQ, ?_, ht,
          ?_⟩
        · simp [driven, Driven.step, Driven.handle, hcaller, System.step]
        · simp [todoRank, hcaller, Caller.isIdle]
    | flagged =>
        refine ⟨{ t with system := { t.system.post .stop with caller := .idle, stopped := true } }, hQ,
          ?_, ht, ?_⟩
        · simp [driven, Driven.step, Driven.handle, hcaller, System.step]
        · simp [todoRank, hcaller, Caller.isIdle]
    | idle =>
        cases htodo : t.todo with
        | nil => simp [todoRank, hcaller, htodo, Caller.isIdle] at hrank
        | cons m todo =>
            cases m with
            | request r =>
                refine ⟨{ t with
                  todo := todo
                  system := { t.system with
                    value := B.write r, caller := .wrote r, last := some r } }, hQ, ?_, ht, ?_⟩
                · simp [driven, Driven.step, Driven.handle, hcaller, htodo, System.step]
                · simp [todoRank, hcaller, htodo, Caller.isIdle]
                  omega
            | stop =>
                refine ⟨{ t with
                  todo := todo, system := { t.system with flag := true, caller := .flagged } }, hQ, ?_,
                  ht, ?_⟩
                · simp [driven, Driven.step, Driven.handle, hcaller, htodo, System.step]
                · simp [todoRank, hcaller, htodo, Caller.isIdle]
                  omega
  obtain ⟨t, hleads, ht, hzero⟩ := Automaton.leads_to_rest (A := driven P B) todoRank hstep rfl
  refine ⟨t, hleads, ?_, ht⟩
  have htodo : t.todo.length = 0 := by
    unfold todoRank at hzero
    omega
  refine ⟨List.length_eq_zero_iff.mp htodo, ?_⟩
  cases hidle : t.system.caller.isIdle with
  | true => rfl
  | false => simp [todoRank, hidle] at hzero

/-- The two steps of a request. -/
theorem leads_request {Q : DrivenLabel ε Req X C → Prop} (hQ : Q .handle) {s : Driven σ Req V W}
    {m : Message Req} {todo : List (Message Req)} (htodo : s.todo = m :: todo)
    (hidle : s.system.caller = .idle) :
    ∃ t, (driven P B).Leads Q s t ∧ t.driver = s.driver ∧ t.todo = todo ∧
      t.system.caller = .idle ∧ t.system.phase = s.system.phase ∧
      t.system.sender = s.system.sender ∧ t.system.queue = (s.system.post m).queue ∧
      (s.system.flag = true ∨ m = .stop → t.system.flag = true) := by
  cases m with
  | request r =>
      have hwrite : (driven P B).step s .handle = some { s with
          todo := todo
          system := { s.system with value := B.write r, caller := .wrote r, last := some r } } := by
        simp [driven, Driven.step, Driven.handle, hidle, htodo, System.step]
      refine ⟨_, (Automaton.Leads.of_step hQ hwrite).trans (.of_step hQ rfl), rfl, rfl, rfl, ?_⟩
      unfold System.post
      simp only
      split <;> simp
  | stop =>
      have hset : (driven P B).step s .handle = some { s with
          todo := todo, system := { s.system with flag := true, caller := .flagged } } := by
        simp [driven, Driven.step, Driven.handle, hidle, htodo, System.step]
      refine ⟨_, (Automaton.Leads.of_step hQ hset).trans (.of_step hQ rfl), rfl, rfl, rfl, ?_⟩
      unfold System.post
      simp only
      split <;> simp

/-- What was asked for gets to a worker that receives. -/
theorem leads_asked {Q : DrivenLabel ε Req X C → Prop} (hQ : Q .handle) {s : Driven σ Req V W}
    (hidle : s.system.caller = .idle) (hsender : s.system.sender = true)
    (hreceives : s.system.phase.receives = true) :
    ∃ t, (driven P B).Leads Q s t ∧ t.driver = s.driver ∧ t.Settled ∧
      t.system.phase = s.system.phase ∧ t.system.queue = s.system.queue ++ s.todo ∧
      (s.system.flag = true ∨ .stop ∈ s.todo → t.system.flag = true) := by
  generalize htodo : s.todo = todo
  induction todo generalizing s with
  | nil => exact ⟨s, .refl s, rfl, ⟨htodo, by rw [hidle]; rfl⟩, rfl, by simp, by simp⟩
  | cons m todo ih =>
      obtain ⟨u, hu, hdriver, htodo', hidle', hphase, hsender', hqueue, hflag⟩ :=
        leads_request (P := P) (B := B) hQ htodo hidle
      obtain ⟨t, ht, hdriver', hsettled, hphase', hqueue', hflag'⟩ :=
        ih hidle' (hsender'.trans hsender) (hphase ▸ hreceives) htodo'
      refine ⟨t, hu.trans ht, hdriver'.trans hdriver, hsettled, hphase'.trans hphase, ?_, ?_⟩
      · rw [hqueue', hqueue, System.post, if_pos (by simp [hsender, hreceives])]
        simp
      · intro hset
        refine hflag' ?_
        rw [List.mem_cons, ← or_assoc] at hset
        cases hset with
        | inl hnow => exact .inl (hflag (hnow.imp id Eq.symm))
        | inr hlater => exact .inr hlater

/-- Once everything asked for has been done, the program can go on. -/
theorem leads_drive {Q : DrivenLabel ε Req X C → Prop} {e : ε} (hQ : Q (.drive e))
    {s : Driven σ Req V W} {d : σ} (hsettled : s.Settled) (h : P.auto.step s.driver e = some d) :
    ∃ t, (driven P B).Leads Q s t ∧ t.driver = d ∧ t.todo = P.asks s.driver e ∧
      t.system = s.system := by
  have hstep : (driven P B).step s (.drive e) =
      some { s with driver := d, todo := s.todo ++ P.asks s.driver e } := by
    simp [driven, Driven.step, hsettled, h]
  refine ⟨_, .of_step hQ hstep, rfl, ?_, rfl⟩
  rw [hsettled.1, List.nil_append]

/-! ## comparing workers -/

variable {B' : Worker Req V W X C}

/-- A step depends on the worker only through the messages it executes. -/
theorem driven_step_congr (hB : AgreeOn ok B B') {s : Driven σ Req V W}
    (hs : OnlyOk ok s.system) (l : DrivenLabel ε Req X C) : s.step P B l = s.step P B' l := by
  cases l with
  | drive e => rfl
  | handle => simp only [Driven.step, Driven.handle, step_congr hB hs]
  | worker l => simp only [Driven.step, step_congr hB hs]

end Reconnect
