import GamescopeIdle.Screensaver.Bus

/-!
# GamescopeIdle.Screensaver.Isolation

What the clients of the screensaver service can do to each other's inhibitors.

A cookie is a bearer token: `UnInhibit` releases whatever holder has it, and
nobody asks who took it.  Short of that the clients are isolated
(`holder_outlasts`): as long as the cookies do not wrap around, a holder stays
until its own cookie is released or its own client leaves.
-/

namespace GamescopeIdle.Screensaver

/-! ## the stub methods -/

/-- The methods of the interface that only exist so that clients do not fail. -/
inductive Stub where
  | getActive
  | setActive (activate : Bool)
  | getActiveTime
  | getSessionIdleTime
  | lock
  | simulateUserActivity

/-- The body of a reply. -/
inductive Reply where
  | bool (b : Bool)
  | u32 (n : UInt32)
  | unit
deriving DecidableEq, Repr

/-- What the object does for a stub method, and its answer. -/
def State.stub (st : State) : Stub → Reply × State
  | .getActive => (.bool false, st)
  | .setActive _ => (.bool false, st)
  | .getActiveTime => (.u32 0, st)
  | .getSessionIdleTime => (.u32 0, st)
  | .lock => (.unit, st)
  | .simulateUserActivity => (.unit, st)

@[simp] theorem State.stub_snd (st : State) (m : Stub) : (st.stub m).2 = st := by
  cases m <;> rfl

/-- The call releases this cookie, if a holder has it. -/
def Call.releases (cookie : UInt32) : Call → Bool
  | .inhibit _ _ _ => false
  | .unInhibit _ c => c == cookie

namespace Bus

/-! ## all traffic -/

/-- A step of the bus, or a stub method that is called and answered. -/
inductive Traffic where
  | bus (l : Label)
  | stub (sender : String) (m : Stub)

/-- One step, the stub methods included. -/
def serve (b : Bus) : Traffic → Option Bus
  | .bus l => b.step l
  | .stub sender m =>
      if b.startup.named? = true ∧ sender ∈ b.clients then
        some { b with service := (b.service.stub m).2 }
      else none

/-- The service on the bus, with every method of its interface. -/
def traffic : Automaton Bus Traffic where
  init := Init
  step := serve

@[simp] theorem step_traffic (b : Bus) (l : Traffic) : traffic.step b l = b.serve l := rfl

/-- A stub changes nothing; any other step is one of the session's. -/
theorem serve_cases {b b' : Bus} {l : Traffic} (h : b.serve l = some b') :
    (∃ sender m, l = .stub sender m ∧ b' = b) ∨ ∃ l', l = .bus l' ∧ b.step l' = some b' := by
  cases l with
  | bus l => exact .inr ⟨l, rfl, h⟩
  | stub sender m =>
      simp only [serve, State.stub_snd, Option.ite_none_right_eq_some, Option.some.injEq] at h
      exact .inl ⟨sender, m, rfl, h.2.symm⟩

/-- It is a call to `Inhibit`. -/
def Traffic.isInhibit : Traffic → Bool
  | bus (.call c) => c.isInhibit
  | _ => false

/-- How many calls to `Inhibit` a run makes. -/
def inhibits (ls : List Traffic) : Nat := ls.countP Traffic.isInhibit

/-! ## cookies in use -/

/-- The counter has counted the calls that were dispatched, and no holder has a
cookie that the counter has not reached. -/
structure Issued (made : Nat) (b : Bus) : Prop where
  counted : b.service.nextCookie.toNat + b.calls.countP Call.isInhibit = made
  issued : ∀ cookie h, b.service.holders.lookup cookie = some h →
    cookie.toNat ≤ b.service.nextCookie.toNat

/-- The counter does not wrap as long as it has room. -/
theorem toNat_bumpCookie {next : UInt32} (h : next.toNat + 1 < 4294967296) :
    (State.bumpCookie next).toNat = next.toNat + 1 := by
  have hadd : (next + 1).toNat = next.toNat + 1 := by
    rw [UInt32.toNat_add]
    exact Nat.mod_eq_of_lt h
  have hne : next + 1 ≠ 0 := by
    intro hzero
    rw [hzero] at hadd
    simp at hadd
  simp only [State.bumpCookie, if_neg hne, hadd]

/-- Taking a call out of those under way takes one `Inhibit` if it is one. -/
theorem countP_eraseIdx {calls : List Call} {i : Nat} {c : Call} (h : calls[i]? = some c) :
    calls.countP Call.isInhibit =
      (calls.eraseIdx i).countP Call.isInhibit + if c.isInhibit then 1 else 0 := by
  induction calls generalizing i with
  | nil => simp at h
  | cons d calls ih =>
      cases i with
      | zero =>
          obtain rfl : d = c := by simpa using h
          simp [List.countP_cons]
      | succ i =>
          have hcalls := ih (by simpa using h)
          simp only [List.eraseIdx_cons_succ, List.countP_cons, hcalls]
          omega

@[simp] theorem calls_broadcast (signal : NameOwnerChanged) (b : Bus) :
    (b.broadcast signal).calls = b.calls := by
  unfold broadcast
  split <;> rfl

@[simp] theorem nextCookie_onNameOwnerChanged (st : State) (signal : NameOwnerChanged) :
    (st.onNameOwnerChanged signal).nextCookie = st.nextCookie := by
  unfold State.onNameOwnerChanged
  split <;> rfl

theorem issued_step {made : Nat} {b b' : Bus} {l : Label} (hroom : made < 4294967296)
    (h : Issued made b) (hstep : b.step l = some b') :
    Issued (made + if (Traffic.bus l).isInhibit then 1 else 0) b' := by
  obtain ⟨hcounted, hissued⟩ := h
  cases step_moved hstep with
  | advanced => exact ⟨hcounted, hissued⟩
  | connected =>
      constructor
      · rw [service_broadcast, calls_broadcast]
        exact hcounted
      · rw [service_broadcast]
        exact hissued
  | disconnected =>
      constructor
      · rw [service_broadcast, calls_broadcast]
        exact hcounted
      · rw [service_broadcast]
        exact hissued
  | @called c =>
      constructor
      · rw [List.countP_append, List.countP_singleton, ← Nat.add_assoc, hcounted]
        rfl
      · exact hissued
  | @dispatched i c hc =>
      have hcount := countP_eraseIdx hc
      cases c with
      | inhibit s app reason =>
          have hnext : (State.bumpCookie b.service.nextCookie).toNat =
              b.service.nextCookie.toNat + 1 := by
            refine toNat_bumpCookie ?_
            simp only [Call.isInhibit, if_true] at hcount
            omega
          constructor
          · simp only [Call.run, State.inhibit, Traffic.isInhibit, Call.isInhibit] at hcount ⊢
            simp only [hnext, if_true, Bool.false_eq_true, if_false] at hcount ⊢
            omega
          · intro cookie holder hlookup
            simp only [Call.run, State.inhibit, Table.lookup_insert] at hlookup ⊢
            rw [hnext]
            split at hlookup
            · next hcookie =>
                rw [hcookie, hnext]
            · have hold := hissued cookie holder hlookup
              omega
      | unInhibit s released =>
          constructor
          · simp only [Call.run, State.unInhibit, Traffic.isInhibit, Call.isInhibit] at hcount ⊢
            simp only [Bool.false_eq_true, if_false, Nat.add_zero] at hcount ⊢
            omega
          · intro cookie holder hlookup
            exact hissued cookie holder (lookup_of_unInhibit hlookup)
  | @reaped signal rest =>
      constructor
      · rw [nextCookie_onNameOwnerChanged]
        exact hcounted
      · intro cookie holder hlookup
        rw [nextCookie_onNameOwnerChanged]
        exact hissued cookie holder (lookup_of_onNameOwnerChanged hlookup).1

/-- In a run without wrap-around every cookie in use has been reached by the counter. -/
theorem issued_of_run {b₀ b : Bus} {ls : List Traffic} (hinit : traffic.init b₀)
    (hrun : traffic.run b₀ ls = some b) :
    inhibits ls < 4294967296 → Issued (inhibits ls) b := by
  refine traffic.run_induction (motive := fun ls b => inhibits ls < 4294967296 →
    Issued (inhibits ls) b) ?_ ?_ hrun
  · intro _
    have hinit : Init b₀ := hinit
    constructor
    · rw [hinit.service, hinit.calls]
      rfl
    · intro cookie holder hlookup
      rw [hinit.service] at hlookup
      simp [State.default] at hlookup
  · intro ls l b b' _ hstep ih hfew
    have hcount : inhibits (ls ++ [l]) = inhibits ls + if l.isInhibit then 1 else 0 := by
      simp [inhibits, List.countP_append, List.countP_singleton]
    rw [hcount] at hfew ⊢
    have hroom : inhibits ls < 4294967296 := by omega
    cases serve_cases hstep with
    | inl hstub =>
        obtain ⟨sender, m, rfl, rfl⟩ := hstub
        exact ih hroom
    | inr hbus =>
        obtain ⟨l', rfl, hstep'⟩ := hbus
        exact issued_step hroom (ih hroom) hstep'

/-! ## who is gone -/

/-- A client that the reaper will learn to be gone is gone for good. -/
structure GoneForGood (b : Bus) : Prop where
  named : ∀ name ∈ b.clients, name ∈ b.names
  left : ∀ signal ∈ b.signals, signal.newOwner = none →
    signal.name ∈ b.names ∧ signal.name ∉ b.clients

@[simp] theorem names_broadcast (signal : NameOwnerChanged) (b : Bus) :
    (b.broadcast signal).names = b.names := by
  unfold broadcast
  split <;> rfl

/-- A signal under way after a broadcast is the one just sent, or was under way before. -/
theorem mem_signals_broadcast {signal s : NameOwnerChanged} {b : Bus}
    (h : s ∈ (b.broadcast signal).signals) : s = signal ∨ s ∈ b.signals := by
  rw [signals_broadcast] at h
  split at h
  · cases List.mem_append.mp h with
    | inl hold => exact .inr hold
    | inr hnew => exact .inl (List.mem_singleton.mp hnew)
  · exact .inr h

theorem goneForGood_step {b b' : Bus} {l : Label} (h : GoneForGood b)
    (hstep : b.step l = some b') : GoneForGood b' := by
  obtain ⟨hnamed, hleft⟩ := h
  cases step_moved hstep with
  | advanced => exact ⟨hnamed, hleft⟩
  | called => exact ⟨hnamed, hleft⟩
  | dispatched => exact ⟨hnamed, hleft⟩
  | @connected name hnew =>
      constructor
      · intro client hclient
        simp only [clients_broadcast, names_broadcast, List.mem_cons] at hclient ⊢
        exact hclient.imp id (hnamed client)
      · intro signal hsignal hnone
        cases mem_signals_broadcast hsignal with
        | inl hthis =>
            rw [hthis] at hnone
            contradiction
        | inr hold =>
            obtain ⟨hname, hgone⟩ := hleft signal hold hnone
            have hne : signal.name ≠ name := by
              intro heq
              exact hnew (heq ▸ hname)
            simp [hname, hgone, hne]
  | @disconnected name hclient =>
      constructor
      · intro client hmem
        simp only [clients_broadcast, names_broadcast, List.mem_filter] at hmem ⊢
        exact hnamed client hmem.1
      · intro signal hsignal hnone
        cases mem_signals_broadcast hsignal with
        | inl hthis =>
            rw [hthis]
            simp [hnamed name hclient]
        | inr hold =>
            obtain ⟨hname, hgone⟩ := hleft signal hold hnone
            simp [hname, hgone]
  | @reaped signal rest _ hsignals =>
      constructor
      · exact hnamed
      · intro later hlater
        exact hleft later (by rw [hsignals]; exact List.mem_cons_of_mem _ hlater)

theorem goneForGood_of_reachable {b : Bus} (h : traffic.Reachable b) : GoneForGood b := by
  refine h.invariant ?_ ?_
  · intro b hb
    have hinit : Init b := hb
    constructor
    · exact hinit.names
    · intro signal hsignal
      simp [hinit.signals] at hsignal
  · intro b l b' _ ih hstep
    cases serve_cases hstep with
    | inl hstub =>
        obtain ⟨sender, m, -, rfl⟩ := hstub
        exact ih
    | inr hbus =>
        obtain ⟨l', -, hstep'⟩ := hbus
        exact goneForGood_step ih hstep'

/-! ## isolation -/

/-- The step neither dispatches an `UnInhibit` of the cookie nor disconnects the client. -/
def Spares (client : String) (cookie : UInt32) (b : Bus) : Traffic → Bool
  | .bus (.dispatch i) => b.calls[i]?.all fun c => !c.releases cookie
  | .bus (.disconnect name) => name != client
  | _ => true

/-- A connected client holds the cookie with this holder. -/
structure Holds (client : String) (cookie : UInt32) (h : Holder) (b : Bus) : Prop where
  held : b.service.holders.lookup cookie = some h
  sender : h.sender = some client
  connected : client ∈ b.clients

/-- A step that spares a client leaves it its inhibitor. -/
theorem holds_step {made : Nat} {b b' : Bus} {l : Label} {client : String} {cookie : UInt32}
    {h : Holder} (hroom : made < 4294967296) (hissued : Issued made b) (hgone : GoneForGood b)
    (hspares : Spares client cookie b (.bus l) = true) (hholds : Holds client cookie h b)
    (hstep : b.step l = some b') : Holds client cookie h b' := by
  obtain ⟨hheld, hsender, hclient⟩ := hholds
  cases step_moved hstep with
  | advanced => exact ⟨hheld, hsender, hclient⟩
  | called => exact ⟨hheld, hsender, hclient⟩
  | connected =>
      refine ⟨?_, hsender, ?_⟩
      · rw [service_broadcast]
        exact hheld
      · rw [clients_broadcast]
        exact List.mem_cons_of_mem _ hclient
  | @disconnected name =>
      have hne : name ≠ client := bne_iff_ne.mp hspares
      refine ⟨?_, hsender, ?_⟩
      · rw [service_broadcast]
        exact hheld
      · simp [hclient, hne.symm]
  | @dispatched i c hc =>
      refine ⟨?_, hsender, hclient⟩
      cases c with
      | inhibit s app reason =>
          -- the new cookie is past all that are in use
          have hcount := countP_eraseIdx hc
          have hcounted := hissued.counted
          have hnext : (State.bumpCookie b.service.nextCookie).toNat =
              b.service.nextCookie.toNat + 1 := by
            refine toNat_bumpCookie ?_
            simp only [Call.isInhibit, if_true] at hcount
            omega
          have hused := hissued.issued cookie h hheld
          have hfresh : cookie ≠ State.bumpCookie b.service.nextCookie := by
            intro heq
            rw [heq, hnext] at hused
            omega
          simp only [Call.run, State.inhibit, Table.lookup_insert, if_neg hfresh]
          exact hheld
      | unInhibit s released =>
          have hne : cookie ≠ released := by
            intro heq
            simp [Spares, hc, Call.releases, heq] at hspares
          simp only [Call.run, State.unInhibit, Table.lookup_erase, if_neg hne]
          exact hheld
  | @reaped signal rest _ hsignals =>
      refine ⟨?_, hsender, hclient⟩
      unfold State.onNameOwnerChanged
      cases howner : signal.newOwner with
      | some owner => simpa using hheld
      | none =>
          have hleft := (hgone.left signal (by simp [hsignals]) howner).2
          have hother : h.sender ≠ some signal.name := by
            rw [hsender]
            intro heq
            exact hleft (Option.some.inj heq ▸ hclient)
          rw [Option.isSome_none, if_neg (by decide), State.reap, Table.mem_lookup_retain,
            bne_iff_ne]
          exact ⟨hheld, hother⟩

/-- **Clients are isolated, short of a cookie's release**: in a run with fewer
than 2³² - 1 calls to `Inhibit`, the inhibitor of a connected client is in the
table, unchanged, for as long as the client stays and nobody releases that
inhibitor's own cookie, whatever else the other clients call or do. -/
theorem holder_outlasts {b₀ b b' : Bus} {pre post : List Traffic} (hinit : traffic.init b₀)
    (hpre : traffic.run b₀ pre = some b) (hpost : traffic.run b post = some b')
    (hfew : inhibits (pre ++ post) < 4294967295) {client : String} {cookie : UInt32} {h : Holder}
    (hholds : Holds client cookie h b)
    (hspares : traffic.Along (fun b l => Spares client cookie b l) b post) :
    Holds client cookie h b' := by
  refine traffic.run_induction (motive := fun ls t => inhibits (pre ++ ls) < 4294967295 →
    traffic.Along (fun b l => Spares client cookie b l) b ls → Holds client cookie h t) ?_ ?_ hpost hfew hspares
  · intro _ _
    exact hholds
  · intro ls l t u hrun hstep ih hfew hspares
    have hboth : traffic.run b₀ (pre ++ ls) = some t := by
      rw [Automaton.run_append, hpre, Option.bind_some]
      exact hrun
    have hsplit : inhibits (pre ++ (ls ++ [l])) = inhibits (pre ++ ls) + inhibits [l] := by
      rw [← List.append_assoc]
      exact List.countP_append
    obtain ⟨hsparesLs, hsparesL⟩ := Automaton.along_snoc.mp hspares
    have hroom : inhibits (pre ++ ls) < 4294967295 := by omega
    have hholds := ih hroom hsparesLs
    cases serve_cases hstep with
    | inl hstub =>
        obtain ⟨sender, m, -, rfl⟩ := hstub
        exact hholds
    | inr hbus =>
        obtain ⟨l', rfl, hstep'⟩ := hbus
        have hissued := issued_of_run hinit hboth (by omega)
        have hgone := goneForGood_of_reachable ⟨b₀, pre ++ ls, hinit, hboth⟩
        exact holds_step (by omega) hissued hgone (hsparesL t hrun) hholds hstep'

/-- Two clients on the bus, of which `:1.7` holds an inhibitor. -/
def twoClients : List Traffic :=
  [.bus .advance, .bus .advance, .bus .advance, .bus .advance, .bus (.connect ":1.7"),
    .bus (.connect ":1.9"), .bus (.call (.inhibit ":1.7" "mpv" "playing")), .bus (.dispatch 0)]

/-- What the other client may do: take and release an inhibitor of its own, call
a stub, and leave. -/
def neighbour : List Traffic :=
  [.bus (.call (.inhibit ":1.9" "firefox" "video")), .bus (.dispatch 0), .stub ":1.9" .getActive,
    .bus (.call (.unInhibit ":1.9" 2)), .bus (.dispatch 0), .bus (.disconnect ":1.9")]

/-- A well-behaved neighbour leaves the inhibitor alone. -/
theorem holder_outlasts_neighbour :
    ∃ b b', traffic.run quiet twoClients = some b ∧ traffic.run b neighbour = some b' ∧
      Holds ":1.7" 1 { app := "mpv", reason := "playing", sender := some ":1.7" } b' := by
  have hpre : traffic.run quiet twoClients = some _ := rfl
  refine ⟨_, _, hpre, rfl, ?_⟩
  exact @holder_outlasts quiet _ _ twoClients neighbour init_quiet hpre rfl (by decide) ":1.7" 1 _
    ⟨rfl, rfl, by decide⟩ (by decide)

/-- A client that guesses the cookie of another releases its inhibitor, and the
screen may blank while that client is still there. -/
theorem guessed_cookie_releases :
    ∃ b b', traffic.run quiet twoClients = some b ∧
      Holds ":1.7" 1 { app := "mpv", reason := "playing", sender := some ":1.7" } b ∧
      traffic.run b [.bus (.call (.unInhibit ":1.9" 1)), .bus (.dispatch 0)] = some b' ∧
      ":1.7" ∈ b'.clients ∧ b'.service.holders.lookup 1 = none := by
  have hpre : traffic.run quiet twoClients = some _ := rfl
  exact ⟨_, _, hpre, ⟨rfl, rfl, by decide⟩, rfl, by decide, rfl⟩

end Bus

end GamescopeIdle.Screensaver
