import GamescopeIdle.Lib.Automaton
import GamescopeIdle.Screensaver

/-!
# GamescopeIdle.Screensaver.Bus

The screensaver service on the session bus: its startup (`spawn`), the clients
that come, call and go, the method calls on their way to it, and the reaper that
listens for their end.  Method calls and the signal stream are dispatched by
independent tasks, in any order.

The reaper only ever acts on a signal, so a holder whose sender is gone must
have a signal on its way (`NoneStranded`).  Two steps can break this: a client
that leaves with an inhibitor before the subscription is in place, and an
`Inhibit` that is dispatched when its sender's end has already been processed.
`along_strandsNobody_iff` shows that there are no others.
-/

namespace GamescopeIdle.Screensaver

/-! ## the system -/

/-- How far `spawn` has come. -/
inductive Startup where
  /-- The connection is built. -/
  | connected
  /-- The object is served at both paths. -/
  | serving
  /-- The well-known name is claimed. -/
  | named
  /-- `NameOwnerChanged` is subscribed to. -/
  | subscribed
  /-- The reaper runs, and `spawn` has returned. -/
  | up
deriving DecidableEq, Repr

namespace Startup

/-- The next line of `spawn`. -/
def next : Startup → Option Startup
  | connected => some serving
  | serving => some named
  | named => some subscribed
  | subscribed => some up
  | up => none

/-- Clients can find the service. -/
def named? : Startup → Bool
  | named | subscribed | up => true
  | _ => false

/-- The bus delivers `NameOwnerChanged` to the service. -/
def hears : Startup → Bool
  | subscribed | up => true
  | _ => false

end Startup

/-- A method call, as the bus carries it. -/
inductive Call where
  | inhibit (sender app reason : String)
  | unInhibit (sender : String) (cookie : UInt32)
deriving DecidableEq, Repr

namespace Call

/-- The unique name of the caller. -/
def sender : Call → String
  | inhibit s _ _ => s
  | unInhibit s _ => s

/-- It is a call to `Inhibit`. -/
def isInhibit : Call → Bool
  | inhibit _ _ _ => true
  | unInhibit _ _ => false

/-- What the object does when the call is dispatched. -/
def run (st : State) : Call → State
  | inhibit s app reason => (st.inhibit app reason (some s)).2
  | unInhibit _ cookie => st.unInhibit cookie

end Call

/-- The service and the bus around it. -/
structure Bus where
  startup : Startup
  service : State
  /-- Unique names of the clients that are connected. -/
  clients : List String
  /-- Unique names the bus has given out; it never gives one out twice. -/
  names : List String
  /-- Calls that have not been dispatched. -/
  calls : List Call
  /-- Signals that the reaper has not processed. -/
  signals : List NameOwnerChanged

namespace Bus

/-- A step of the service, of a client or of one of the dispatching tasks. -/
inductive Label where
  | advance
  | connect (name : String)
  | disconnect (name : String)
  | call (c : Call)
  | dispatch (i : Nat)
  | reap

/-- The bus broadcasts a `NameOwnerChanged`. -/
def broadcast (signal : NameOwnerChanged) (b : Bus) : Bus :=
  if b.startup.hears then { b with signals := b.signals ++ [signal] } else b

def step (b : Bus) : Label → Option Bus
  | .advance => b.startup.next.map fun s => { b with startup := s }
  | .connect name =>
      if name ∈ b.names then none
      else
        some (broadcast { name := name, newOwner := some name }
          { b with clients := name :: b.clients, names := name :: b.names })
  | .disconnect name =>
      if name ∈ b.clients then
        some (broadcast { name := name, newOwner := none }
          { b with clients := b.clients.filter (· ≠ name) })
      else none
  | .call c =>
      if b.startup.named? = true ∧ c.sender ∈ b.clients then
        some { b with calls := b.calls ++ [c] }
      else none
  | .dispatch i =>
      b.calls[i]?.map fun c => { b with service := c.run b.service, calls := b.calls.eraseIdx i }
  | .reap =>
      if b.startup = .up then
        match b.signals with
        | signal :: rest =>
            some { b with service := b.service.onNameOwnerChanged signal, signals := rest }
        | [] => none
      else none

/-- The bus when `spawn` has connected to it, with any clients. -/
structure Init (b : Bus) : Prop where
  startup : b.startup = .connected
  service : b.service = .default
  names : ∀ name ∈ b.clients, name ∈ b.names
  calls : b.calls = []
  signals : b.signals = []

/-- The service on the bus. -/
def session : Automaton Bus Label where
  init := Init
  step := step

@[simp] theorem step_session (b : Bus) (l : Label) : session.step b l = b.step l := rfl

/-- A bus without clients. -/
def quiet : Bus :=
  { startup := .connected, service := .default, clients := [], names := [], calls := []
    signals := [] }

theorem init_quiet : Init quiet :=
  ⟨rfl, rfl, by simp [quiet], rfl, rfl⟩

/-! ## what is asked of it -/

/-- The startup is over, and no `Inhibit` and no signal is on its way. -/
structure Settled (b : Bus) : Prop where
  startup : b.startup = .up
  calls : ∀ c ∈ b.calls, c.isInhibit = false
  signals : b.signals = []

/-- Every holder's sender is connected. -/
def HoldersConnected (b : Bus) : Prop :=
  ∀ cookie h, b.service.holders.lookup cookie = some h → ∃ s ∈ b.clients, h.sender = some s

/-- The reaper will still learn that the client is gone. -/
def Leaving (b : Bus) (name : String) : Prop :=
  ∃ signal ∈ b.signals, signal.name = name ∧ signal.newOwner = none

/-- Every holder's sender is connected, or the reaper will learn that it is not. -/
def NoneStranded (b : Bus) : Prop :=
  ∀ cookie h, b.service.holders.lookup cookie = some h →
    ∃ s, h.sender = some s ∧ (s ∈ b.clients ∨ b.Leaving s)

/-- A client that leaves before the subscription is in place holds nothing, and when
an `Inhibit` is dispatched, its sender is connected, or the signal of its end is queued
and still to be processed. -/
def InTime (b : Bus) : Label → Prop
  | .disconnect name =>
      name ∈ b.clients → b.startup.hears = false → ∀ cookie h, b.service.holders.lookup cookie = some h →
        h.sender ≠ some name
  | .dispatch i =>
      ∀ s app reason, b.calls[i]? = some (.inhibit s app reason) → s ∈ b.clients ∨ b.Leaving s
  | _ => True

/-- The step, if it can be taken, strands nobody. -/
def StrandsNobody (b : Bus) (l : Label) : Prop := ∀ b', b.step l = some b' → NoneStranded b'

theorem holdersConnected_of_settled {b : Bus} (h : NoneStranded b) (hsettled : Settled b) :
    HoldersConnected b := by
  intro cookie holder hlookup
  obtain ⟨s, hs, hwhere⟩ := h cookie holder hlookup
  cases hwhere with
  | inl hconnected => exact ⟨s, hconnected, hs⟩
  | inr hleaving =>
      obtain ⟨signal, hsignal, -⟩ := hleaving
      simp [hsettled.signals] at hsignal

/-! ## what the operations do to the holders -/

theorem lookup_inhibit_of_eq {st : State} {app reason : String} {sender : Option String}
    {cookie : UInt32} {h : Holder}
    (hlookup : (st.inhibit app reason sender).2.holders.lookup cookie = some h) :
    h.sender = sender ∨ st.holders.lookup cookie = some h := by
  simp only [State.inhibit, Table.lookup_insert] at hlookup
  split at hlookup
  · rw [Option.some.injEq] at hlookup
    rw [← hlookup]
    exact .inl rfl
  · exact .inr hlookup

theorem lookup_of_unInhibit {st : State} {c cookie : UInt32} {h : Holder}
    (hlookup : (st.unInhibit c).holders.lookup cookie = some h) :
    st.holders.lookup cookie = some h := by
  simp only [State.unInhibit, Table.lookup_erase] at hlookup
  split at hlookup
  · contradiction
  · exact hlookup

/-- What the reaper leaves is not held by the client that is gone. -/
theorem lookup_of_onNameOwnerChanged {st : State} {signal : NameOwnerChanged} {cookie : UInt32}
    {h : Holder} (hlookup : (st.onNameOwnerChanged signal).holders.lookup cookie = some h) :
    st.holders.lookup cookie = some h ∧
      (signal.newOwner = none → h.sender ≠ some signal.name) := by
  unfold State.onNameOwnerChanged at hlookup
  cases howner : signal.newOwner with
  | some owner =>
      simp only [howner, Option.isSome_some, if_true] at hlookup
      exact ⟨hlookup, fun hnone => by contradiction⟩
  | none =>
      rw [howner, Option.isSome_none, if_neg (by decide), State.reap,
        Table.mem_lookup_retain, bne_iff_ne] at hlookup
      exact ⟨hlookup.1, fun _ => hlookup.2⟩

/-! ## inversion of a step -/

/-- Everything one step can do to the bus. -/
inductive Moved (b : Bus) : Label → Bus → Prop
  | advanced {s : Startup} (h : b.startup.next = some s) : Moved b .advance { b with startup := s }
  | connected {name : String} (h : name ∉ b.names) :
      Moved b (.connect name) (broadcast { name := name, newOwner := some name }
        { b with clients := name :: b.clients, names := name :: b.names })
  | disconnected {name : String} (h : name ∈ b.clients) :
      Moved b (.disconnect name) (broadcast { name := name, newOwner := none }
        { b with clients := b.clients.filter (· ≠ name) })
  | called {c : Call} (h : c.sender ∈ b.clients) : Moved b (.call c) { b with calls := b.calls ++ [c] }
  | dispatched {i : Nat} {c : Call} (h : b.calls[i]? = some c) :
      Moved b (.dispatch i) { b with service := c.run b.service, calls := b.calls.eraseIdx i }
  | reaped {signal : NameOwnerChanged} {rest : List NameOwnerChanged} (hup : b.startup = .up)
      (h : b.signals = signal :: rest) :
      Moved b .reap { b with service := b.service.onNameOwnerChanged signal, signals := rest }

/-- **Inversion of a step**: a step does one of the things `Moved` lists. -/
theorem step_moved {b b' : Bus} {l : Label} (h : b.step l = some b') : Moved b l b' := by
  cases l with
  | advance =>
      obtain ⟨s, hs, rfl⟩ := Option.map_eq_some_iff.mp h
      exact .advanced hs
  | connect name =>
      simp only [step, Option.ite_none_left_eq_some, Option.some.injEq] at h
      obtain ⟨hnew, rfl⟩ := h
      exact .connected hnew
  | disconnect name =>
      simp only [step, Option.ite_none_right_eq_some, Option.some.injEq] at h
      obtain ⟨hclient, rfl⟩ := h
      exact .disconnected hclient
  | call c =>
      simp only [step, Option.ite_none_right_eq_some, Option.some.injEq] at h
      obtain ⟨⟨-, hclient⟩, rfl⟩ := h
      exact .called hclient
  | dispatch i =>
      obtain ⟨c, hc, rfl⟩ := Option.map_eq_some_iff.mp h
      exact .dispatched hc
  | reap =>
      simp only [step, Option.ite_none_right_eq_some] at h
      obtain ⟨hup, h⟩ := h
      cases hsignals : b.signals with
      | nil => simp [hsignals] at h
      | cons signal rest =>
          rw [hsignals, Option.some.injEq] at h
          rw [← h]
          exact .reaped hup hsignals

/-! ## one step -/

@[simp] theorem service_broadcast (signal : NameOwnerChanged) (b : Bus) :
    (b.broadcast signal).service = b.service := by
  unfold broadcast
  split <;> rfl

@[simp] theorem clients_broadcast (signal : NameOwnerChanged) (b : Bus) :
    (b.broadcast signal).clients = b.clients := by
  unfold broadcast
  split <;> rfl

@[simp] theorem startup_broadcast (signal : NameOwnerChanged) (b : Bus) :
    (b.broadcast signal).startup = b.startup := by
  unfold broadcast
  split <;> rfl

theorem signals_broadcast (signal : NameOwnerChanged) (b : Bus) :
    (b.broadcast signal).signals =
      if b.startup.hears then b.signals ++ [signal] else b.signals := by
  unfold broadcast
  split <;> rfl

/-- A broadcast takes nothing from what the reaper will learn. -/
theorem Leaving.broadcast {b b' : Bus} {name : String} (h : b.Leaving name)
    (hsame : b'.signals = b.signals) (signal : NameOwnerChanged) :
    (b'.broadcast signal).Leaving name := by
  obtain ⟨left, hleft, hname⟩ := h
  refine ⟨left, ?_, hname⟩
  rw [signals_broadcast, hsame]
  split
  · exact List.mem_append_left _ hleft
  · exact hleft

/-- Before the subscription the reaper has nothing to process. -/
theorem signals_of_reachable {b : Bus} (h : session.Reachable b) :
    b.startup.hears = false → b.signals = [] := by
  refine h.invariant (I := fun b => b.startup.hears = false → b.signals = []) ?_ ?_
  · intro b hb _
    exact Init.signals hb
  · intro b l b' _ ih hstep hdeaf
    cases step_moved hstep with
    | @advanced s hs =>
        refine ih ?_
        cases hb : b.startup with
        | subscribed =>
            rw [hb] at hs
            cases hs
            simp [Startup.hears] at hdeaf
        | up => simp [hb, Startup.next] at hs
        | _ => rfl
    | connected =>
        rw [startup_broadcast] at hdeaf
        rw [signals_broadcast, if_neg (by simp [hdeaf])]
        exact ih hdeaf
    | disconnected =>
        rw [startup_broadcast] at hdeaf
        rw [signals_broadcast, if_neg (by simp [hdeaf])]
        exact ih hdeaf
    | called => exact ih hdeaf
    | dispatched => exact ih hdeaf
    | reaped hup => simp [hup, Startup.hears] at hdeaf

/-- A step in time strands nobody. -/
theorem noneStranded_of_inTime {b b' : Bus} {l : Label} (h : NoneStranded b) (hok : InTime b l)
    (hstep : b.step l = some b') : NoneStranded b' := by
  intro cookie holder hlookup
  cases step_moved hstep with
  | advanced => exact h cookie holder hlookup
  | called => exact h cookie holder hlookup
  | connected =>
      rw [service_broadcast] at hlookup
      obtain ⟨s, hs, hwhere⟩ := h cookie holder hlookup
      rw [clients_broadcast]
      cases hwhere with
      | inl hconnected => exact ⟨s, hs, .inl (List.mem_cons_of_mem _ hconnected)⟩
      | inr hleaving => exact ⟨s, hs, .inr (Leaving.broadcast hleaving (by rfl) _)⟩
  | @disconnected name hclient =>
      rw [service_broadcast] at hlookup
      obtain ⟨s, hs, hwhere⟩ := h cookie holder hlookup
      rw [clients_broadcast]
      cases hwhere with
      | inr hleaving => exact ⟨s, hs, .inr (Leaving.broadcast hleaving (by rfl) _)⟩
      | inl hconnected =>
          by_cases hname : s = name
          · subst hname
            cases hhears : b.startup.hears with
            | true =>
                refine ⟨s, hs, .inr ⟨{ name := s, newOwner := none }, ?_, rfl, rfl⟩⟩
                rw [signals_broadcast, if_pos hhears]
                simp
            | false => exact absurd hs (hok hclient hhears cookie holder hlookup)
          · exact ⟨s, hs, .inl (by simp [hconnected, hname])⟩
  | @dispatched i c hc =>
      cases c with
      | inhibit s app reason =>
          cases lookup_inhibit_of_eq hlookup with
          | inl hs => exact ⟨s, hs, hok s app reason hc⟩
          | inr hold => exact h cookie holder hold
      | unInhibit s released => exact h cookie holder (lookup_of_unInhibit hlookup)
  | @reaped signal rest _ hsignals =>
      obtain ⟨hold, hgone⟩ := lookup_of_onNameOwnerChanged hlookup
      obtain ⟨s, hs, hwhere⟩ := h cookie holder hold
      cases hwhere with
      | inl hconnected => exact ⟨s, hs, .inl hconnected⟩
      | inr hleaving =>
          obtain ⟨left, hleft, hname, hnone⟩ := hleaving
          rw [hsignals] at hleft
          cases List.mem_cons.mp hleft with
          | inl hthis =>
              rw [hthis] at hname hnone
              exact absurd (hname ▸ hs) (hgone hnone)
          | inr hlater => exact ⟨s, hs, .inr ⟨left, hlater, hname, hnone⟩⟩

/-- A step that is not in time strands a holder. -/
theorem inTime_of_strandsNobody {b : Bus} {l : Label} (hreach : session.Reachable b)
    (h : StrandsNobody b l) : InTime b l := by
  cases l with
  | disconnect name =>
      intro hclient hdeaf cookie holder hlookup hs
      have hstep : b.step (.disconnect name) = some (broadcast { name := name, newOwner := none }
          { b with clients := b.clients.filter (· ≠ name) }) := by simp [step, hclient]
      obtain ⟨s, hs', hwhere⟩ := h _ hstep cookie holder (by rw [service_broadcast]; exact hlookup)
      obtain rfl : name = s := by simpa [hs] using hs'
      cases hwhere with
      | inl hconnected => simp at hconnected
      | inr hleaving =>
          obtain ⟨signal, hsignal, -⟩ := hleaving
          rw [signals_broadcast, if_neg (by simp [hdeaf])] at hsignal
          simp [signals_of_reachable hreach hdeaf] at hsignal
  | dispatch i =>
      intro s app reason hcall
      have hstep : b.step (.dispatch i) = some { b with
          service := (b.service.inhibit app reason (some s)).2, calls := b.calls.eraseIdx i } := by
        simp [step, hcall, Call.run]
      have hlookup : ((b.service.inhibit app reason (some s)).2).holders.lookup
          (State.bumpCookie b.service.nextCookie) =
          some { app := app, reason := reason, sender := some s } := by
        simp [State.inhibit]
      obtain ⟨s', hs', hwhere⟩ := h _ hstep _ _ hlookup
      obtain rfl : s = s' := by simpa using hs'
      exact hwhere
  | _ => trivial

/-! ## whole runs -/

theorem noneStranded_of_init {b : Bus} (h : session.init b) : NoneStranded b := by
  intro cookie holder hlookup
  rw [Init.service h] at hlookup
  simp [State.default] at hlookup

theorem noneStranded_of_along {b₀ b : Bus} {ls : List Label} (hinit : session.init b₀)
    (hrun : session.run b₀ ls = some b) (hok : session.Along InTime b₀ ls) : NoneStranded b := by
  refine hok.invariant (fun s hs => noneStranded_of_init hs) ?_ hinit hrun
  intro s l t _ hP ih hstep
  exact noneStranded_of_inTime ih hP hstep

/-- Exactly the runs whose steps are in time strand nobody. -/
theorem along_strandsNobody_iff {b₀ : Bus} {ls : List Label} (hinit : session.init b₀) :
    session.Along StrandsNobody b₀ ls ↔ session.Along InTime b₀ ls := by
  have hexact : ∀ b l, session.Reachable b → NoneStranded b →
      (session.Keeps NoneStranded b l ↔ InTime b l) := by
    intro b l hb hnone
    constructor
    · exact inTime_of_strandsNobody hb
    · intro hok b' hstep
      exact noneStranded_of_inTime hnone hok hstep
  exact Automaton.along_keeps_iff hexact (.init hinit) (noneStranded_of_init hinit)

/-- **A vanished client does not pin the screen on**, in a run whose steps are all
in time: once the service is up and nothing is on its way to it, every holder's
sender is connected.  The runs whose steps are in time are exactly those that
never strand a holder. -/
theorem vanished_client_is_reaped {b₀ b : Bus} {ls : List Label} (hinit : session.init b₀)
    (hrun : session.run b₀ ls = some b) :
    (session.Along InTime b₀ ls → Settled b → HoldersConnected b) ∧
      (session.Along StrandsNobody b₀ ls ↔ session.Along InTime b₀ ls) := by
  constructor
  · intro hok hsettled
    exact holdersConnected_of_settled (noneStranded_of_along hinit hrun hok) hsettled
  · exact along_strandsNobody_iff hinit

/-- Two clients inhibit during the startup; one leaves once the service hears of it. -/
def leaving : List Label :=
  [.advance, .advance, .connect ":1.7", .connect ":1.8", .call (.inhibit ":1.7" "mpv" "playing"),
    .call (.inhibit ":1.8" "firefox" "video"), .dispatch 0, .dispatch 0, .advance, .advance,
    .disconnect ":1.7", .reap]

/-- Its inhibitor is gone, and the other one is not. -/
theorem vanished_client_is_reaped_quiet :
    ∃ b, session.run quiet leaving = some b ∧ b.clients = [":1.8"] ∧
      b.service.holders.keys = [2] ∧ HoldersConnected b := by
  have hrun : session.run quiet leaving = some _ := rfl
  refine ⟨_, hrun, rfl, rfl, ?_⟩
  refine (vanished_client_is_reaped init_quiet hrun).1 ?_ ⟨rfl, List.forall_mem_nil _, rfl⟩
  have hfirst {b : Bus} {s app reason : String} {calls : List Call}
      (hb : b.calls = .inhibit s app reason :: calls) (hs : s ∈ b.clients) :
      InTime b (.dispatch 0) := by
    intro s' app' reason' hcall
    obtain ⟨rfl, -⟩ := Call.inhibit.inj (Option.some_inj.mp (hb ▸ hcall))
    exact .inl hs
  -- up to the two calls
  refine .cons trivial rfl (.cons trivial rfl (.cons trivial rfl (.cons trivial rfl ?_)))
  refine .cons trivial rfl (.cons trivial rfl ?_)
  refine .cons (hfirst rfl (by decide)) rfl (.cons (hfirst rfl (by decide)) rfl ?_)
  -- the service hears of the end of the client that leaves
  refine .cons trivial rfl (.cons trivial rfl ?_)
  exact .cons (fun _ hdeaf => by contradiction) rfl (.cons trivial rfl trivial)

/-- A client inhibits once the name is claimed, and is gone before the
subscription: its inhibitor stays. -/
theorem early_client_pins_the_screen :
    ∃ b, session.run quiet
        [.advance, .advance, .connect ":1.7", .call (.inhibit ":1.7" "mpv" "playing"),
          .dispatch 0, .disconnect ":1.7", .advance, .advance] = some b ∧
      Settled b ∧ ¬ HoldersConnected b ∧ (ScreenSaverWatch.mk b.service).inhibited = true := by
  have hrun : session.run quiet
      [.advance, .advance, .connect ":1.7", .call (.inhibit ":1.7" "mpv" "playing"),
        .dispatch 0, .disconnect ":1.7", .advance, .advance] = some _ := rfl
  refine ⟨_, hrun, ⟨rfl, List.forall_mem_nil _, rfl⟩, ?_, rfl⟩
  intro hconnected
  obtain ⟨s, hs, -⟩ := hconnected 1 { app := "mpv", reason := "playing", sender := some ":1.7" } rfl
  contradiction

end Bus

end GamescopeIdle.Screensaver
