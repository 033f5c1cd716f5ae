import GamescopeIdle.Machine
import Mathlib.Data.List.Chain

/-!
# GamescopeIdle.Machine.Safety

Two safety properties of the machine over all sequences of events.

* **Agreement**: the machine's state, the requests made to the overlay and the
  calls made to the CEC adapter never disagree, and a shutdown leaves neither
  the panel nor the TV blanked (`Agrees`, `agrees_of_reachable`).
* **Inhibition**: what a held idle inhibitor vetoes.  The timer asks the
  inhibitors in `active` only, so the veto is exact off the dim window
  (`vetoed_iff`).
-/

namespace GamescopeIdle

open Screensaver (ScreenSaverWatch)

namespace Machine

/-! ## agreement -/

/-- The calls strictly alternate, starting with `standby`. -/
def Alternates (calls : List CecCall) : Prop :=
  calls.IsChain (· ≠ ·) ∧ ∀ c ∈ calls.head?, c = .standby

/-- The last overlay request that a state calls for. -/
def LastRequestFits (cfg : Config) : State → Option OverlayRequest → Prop
  | .active, last => last = none ∨ last = some .hide
  | .dim, last => last = some (.showAlpha cfg.dimAlpha)
  | .black, last => last = some (.showAlpha 1.0)

/-- State, overlay requests and CEC calls agree. -/
structure Agrees (m : Machine) : Prop where
  overlay : ∀ rs, m.overlay = some rs → LastRequestFits m.cfg m.state rs.getLast?
  alternates : Alternates m.cec.calls
  standby : m.cec.calls.getLast? = some .standby ↔ m.state = .black

theorem alternates_nil : Alternates [] := ⟨List.IsChain.nil, by simp⟩

/-- A call that differs from the last one, or is a first `standby`, keeps the
calls alternating. -/
theorem alternates_concat {calls : List CecCall} {c : CecCall} (h : Alternates calls)
    (hfirst : calls = [] → c = .standby) (hlast : ∀ d ∈ calls.getLast?, d ≠ c) :
    Alternates (calls ++ [c]) := by
  constructor
  · refine List.isChain_append.mpr ⟨h.1, List.IsChain.singleton _, fun d hd c' hc' => ?_⟩
    have hc : c' = c := by simpa using hc'.symm
    rw [hc]
    exact hlast d hd
  · cases calls with
    | nil =>
        intro c' hc'
        have hc : c' = c := by simpa using hc'.symm
        rw [hc]
        exact hfirst rfl
    | cons d ds => exact h.2

/-- The request just made is the last one. -/
theorem getLast?_of_request {overlay : Option (List OverlayRequest)} {r : OverlayRequest}
    {rs : List OverlayRequest} (h : overlay.map (· ++ [r]) = some rs) : rs.getLast? = some r := by
  obtain ⟨rs₀, -, hrs⟩ := Option.map_eq_some_iff.mp h
  simp [← hrs]

theorem agrees_start (cfg : Config) (overlay : Bool) (pathExists : String → Bool)
    (dev : List String) (lastActivity dimDeadline : Instant) :
    Agrees (start cfg overlay (Cec.new cfg pathExists dev) lastActivity dimDeadline) where
  overlay rs hrs := by
    cases overlay with
    | false => simp [start] at hrs
    | true =>
        have hnil : rs = [] := by simpa [start] using hrs.symm
        exact .inl (by rw [hnil]; rfl)
  alternates := alternates_nil
  standby := by simp [start, Cec.new]

theorem agrees_touch (env : Env) {m : Machine} (h : Agrees m) : Agrees (m.touch env) :=
  ⟨h.overlay, h.alternates, h.standby⟩

theorem agrees_wake (env : Env) {m : Machine} (h : Agrees m) : Agrees (m.wake env) where
  overlay rs hrs := by
    rw [overlay_wake] at hrs
    exact .inr (getLast?_of_request hrs)
  alternates := by
    rw [cec_wake]
    split
    · next hblack =>
        have hlast := h.standby.mpr hblack
        rw [Cec.calls_wake]
        refine alternates_concat h.alternates (fun hnil => ?_) fun d hd => ?_
        · simp [hnil] at hlast
        · rw [hlast, Option.mem_def, Option.some.injEq] at hd
          rw [← hd]; decide
    · exact h.alternates
  standby := by
    have hleft : (m.wake env).cec.calls.getLast? ≠ some .standby := by
      rw [cec_wake]
      split
      · rw [Cec.calls_wake, List.getLast?_concat]
        decide
      · next hblack => exact fun hlast => hblack (h.standby.mp hlast)
    exact iff_of_false hleft (by rw [state_wake]; decide)

theorem agrees_enterDim (env : Env) {m : Machine} (h : Agrees m) (hact : m.state = .active) :
    Agrees (m.enterDim env) where
  overlay rs hrs := by
    rw [overlay_enterDim] at hrs
    exact getLast?_of_request hrs
  alternates := h.alternates
  standby := by
    have hleft : m.cec.calls.getLast? ≠ some .standby := fun hlast => by
      have hblack := h.standby.mp hlast
      rw [hact] at hblack
      contradiction
    exact iff_of_false hleft (by rw [state_enterDim]; decide)

theorem agrees_enterBlack (env : Env) {m : Machine} (h : Agrees m) (hs : m.state ≠ .black) :
    Agrees (m.enterBlack env) where
  overlay rs hrs := by
    rw [overlay_enterBlack] at hrs
    exact getLast?_of_request hrs
  alternates := by
    rw [cec_enterBlack, Cec.calls_standby]
    refine alternates_concat h.alternates (fun _ => rfl) fun d hd hd' => ?_
    rw [hd'] at hd
    exact hs (h.standby.mp hd)
  standby := by
    rw [cec_enterBlack, Cec.calls_standby, List.getLast?_concat]
    exact iff_of_true rfl rfl

/-- Every event keeps the agreement. -/
theorem agrees_handle {env : Env} {e : Event} {m m' : Machine} (h : Agrees m)
    (hm : m.handle env e = m') : Agrees m' := by
  cases handle_outcome hm with
  | idle => exact h
  | refreshed => exact agrees_touch env h
  | woken => exact agrees_wake env (agrees_touch env h)
  | dimmed _ hact => exact agrees_enterDim env h hact
  | blackened hb =>
      refine agrees_enterBlack env h ?_
      rcases hb with ⟨-, hs | ⟨hs, -⟩⟩ | ⟨-, hs⟩
      · rw [hs]; decide
      · rw [hs]; decide
      · exact hs

theorem agrees_of_reachable {m : Machine} (h : automaton.Reachable m) : Agrees m := by
  refine h.invariant ?_ ?_
  · rintro _ ⟨cfg, overlay, pathExists, dev, lastActivity, dimDeadline, rfl⟩
    exact agrees_start cfg overlay pathExists dev lastActivity dimDeadline
  · intro m e m' _ hm he
    exact agrees_handle hm (step_eq_some.mp he)

/-! ## after a shutdown -/

/-- A shutdown leaves the overlay hidden and the TV awake. -/
structure LeftAwake (m : Machine) : Prop where
  overlay : ∀ rs, m.overlay = some rs →
    (rs.filter OverlayRequest.isDisplay).getLast? = some .hide
  alternates : Alternates m.cec.calls
  cec : m.cec.calls = [] ∨ m.cec.calls.getLast? = some .wake

theorem leftAwake_shutdown (env : Env) {m : Machine} (h : Agrees m) :
    LeftAwake (m.shutdown env) where
  overlay rs hrs := by
    simp only [shutdown, request, overlay_wake, Option.map_map, Option.map_eq_some_iff] at hrs
    obtain ⟨rs₀, -, rfl⟩ := hrs
    simp [OverlayRequest.isDisplay]
  alternates := (agrees_wake env h).alternates
  cec := by
    have hw := agrees_wake env h
    have hlast : (m.wake env).cec.calls.getLast? ≠ some .standby := fun hlast => by
      have hblack := hw.standby.mp hlast
      rw [state_wake] at hblack
      contradiction
    show (m.wake env).cec.calls = [] ∨ (m.wake env).cec.calls.getLast? = some .wake
    cases hl : (m.wake env).cec.calls.getLast? with
    | none => exact .inl (List.getLast?_eq_none_iff.mp hl)
    | some c =>
        cases c with
        | standby => exact absurd hl hlast
        | wake => exact .inr rfl

/-- **State, overlay and CEC never disagree**: in every state any sequence of
events leads to they agree, and a shutdown from there leaves nothing blanked. -/
theorem requests_agree_with_state {m : Machine} (h : automaton.Reachable m) :
    Agrees m ∧ ∀ env, LeftAwake (m.shutdown env) :=
  ⟨agrees_of_reachable h, fun env => leftAwake_shutdown env (agrees_of_reachable h)⟩

/-- The agreement after an explicit blank of a fresh machine. -/
theorem requests_agree_with_state_fresh :
    Agrees (fresh.handle ⟨0, fun _ => false⟩ .sigusr1) ∧
      (fresh.handle ⟨0, fun _ => false⟩ .sigusr1).state = .black :=
  ⟨(requests_agree_with_state (reachable_handle (.init init_fresh) _ _)).1, rfl⟩

/-! ## inhibition -/

/-- An idle inhibitor is held: logind answers that `idle` is among what is
blocked, or the screensaver service has a holder. -/
def IdleHeld (inhibit : Option InhibitWatch) (screensaver : Option ScreenSaverWatch) : Prop :=
  (∃ blockInhibited, inhibit = some { blockInhibited := .ok blockInhibited } ∧
      InhibitWatch.listsIdle blockInhibited = true) ∨
    ∃ w, screensaver = some w ∧ w.inhibited = true

/-- The step enters state `s`. -/
def Enters (s : State) (m m' : Machine) : Prop := m.state ≠ s ∧ m'.state = s

/-- The step goes deeper into blanking. -/
def Blanks (m m' : Machine) : Prop := Enters .dim m m' ∨ Enters .black m m'

/-- The event happens while an inhibitor is held.  Only the timer reads the
inhibitors. -/
def WhileHeld : Event → Prop
  | .timeout inhibit screensaver => IdleHeld inhibit screensaver
  | _ => True

/-- The daemon sees every inhibitor that is held. -/
theorem idleInhibited_of_idleHeld {inhibit : Option InhibitWatch}
    {screensaver : Option ScreenSaverWatch} (h : IdleHeld inhibit screensaver) :
    idleInhibited inhibit screensaver = true := by
  cases h with
  | inl hlogind =>
      obtain ⟨blockInhibited, rfl, hlists⟩ := hlogind
      simp [idleInhibited, InhibitWatch.idleBlocked, hlists]
  | inr hscreensaver =>
      obtain ⟨w, rfl, hw⟩ := hscreensaver
      simp [idleInhibited, hw]

theorem inhibited_of_whileHeld {e : Event} (htime : e.isTimeout = true) (h : WhileHeld e) :
    e.inhibited = true := by
  cases e with
  | timeout inhibit screensaver => exact idleInhibited_of_idleHeld h
  | _ => simp [Event.isTimeout] at htime

/-- A step that goes deeper into blanking, while an inhibitor is held, is an
explicit blank, unless it is the timer ending the dim window. -/
theorem blanks_cases {env : Env} {e : Event} {m m' : Machine} (hm : m.handle env e = m')
    (hheld : WhileHeld e) (hb : Blanks m m') :
    e.blanks = true ∨ (e.isTimeout = true ∧ m.state = .dim) := by
  cases handle_outcome hm with
  | idle => rcases hb with hb | hb <;> exact absurd hb.2 hb.1
  | refreshed => rcases hb with hb | hb <;> exact absurd hb.2 hb.1
  | woken => rcases hb with hb | hb <;> exact absurd hb.2 (by simp)
  | dimmed htime _ hinh =>
      rw [inhibited_of_whileHeld htime hheld] at hinh
      contradiction
  | blackened h =>
      rcases h with ⟨htime, hs | ⟨-, hinh, -⟩⟩ | ⟨hblank, -⟩
      · exact .inr ⟨htime, hs⟩
      · rw [inhibited_of_whileHeld htime hheld] at hinh
        contradiction
      · exact .inl hblank

/-- The timer ends the dim window without asking an inhibitor. -/
theorem blanks_of_dim {env : Env} {e : Event} {m : Machine} (htime : e.isTimeout = true)
    (hs : m.state = .dim) : Blanks m (m.handle env e) := by
  cases e with
  | timeout inhibit screensaver =>
      refine .inr ⟨by rw [hs]; decide, ?_⟩
      simp [handle, onTimeout, hs]
  | _ => simp [Event.isTimeout] at htime

/-- While an inhibitor is held only an explicit blank goes deeper into blanking. -/
def Vetoed (m : Machine) (e : Env × Event) : Prop :=
  WhileHeld e.2 → Blanks m (m.handle e.1 e.2) → e.2.blanks = true

/-- The timer does not fire in the dim window while an inhibitor is held. -/
def NotHeldAtDimEnd (m : Machine) (e : Env × Event) : Prop :=
  WhileHeld e.2 → e.2.isTimeout = true → m.state ≠ .dim

/-- A step honours the veto exactly when it is not the timer ending the dim
window under a held inhibitor. -/
theorem vetoed_iff (m : Machine) (e : Env × Event) : Vetoed m e ↔ NotHeldAtDimEnd m e := by
  constructor
  · intro h hheld htime hs
    have hblank := h hheld (blanks_of_dim htime hs)
    cases he : e.2 with
    | timeout inhibit screensaver => simp [he, Event.blanks] at hblank
    | _ => simp [he, Event.isTimeout] at htime
  · intro h hheld hb
    rcases blanks_cases rfl hheld hb with hblank | ⟨htime, hs⟩
    · exact hblank
    · exact absurd hs (h hheld htime)

/-- **What inhibitors veto**: in any sequence of events the veto is honoured at
every step exactly when it never ends the dim window under a held inhibitor. -/
theorem inhibitors_veto_timer (s : Machine) (es : List (Env × Event)) :
    automaton.Along Vetoed s es ↔ automaton.Along NotHeldAtDimEnd s es := by
  constructor
  · exact Automaton.Along.mono fun m e => (vetoed_iff m e).mp
  · exact Automaton.Along.mono fun m e => (vetoed_iff m e).mpr

/-- An inhibitor held when the idle timeout passes keeps a fresh machine awake. -/
theorem inhibitors_veto_timer_fresh :
    automaton.Along Vetoed fresh
      [(⟨300000000000, fun _ => false⟩,
        .timeout (some { blockInhibited := .ok "sleep:idle" }) none)] := by
  have hact : fresh.state ≠ .dim := by decide
  exact (inhibitors_veto_timer fresh _).mpr ⟨fun _ _ => hact, fun _ _ => trivial⟩

/-- An inhibitor taken in the dim window does not keep the machine out of black. -/
theorem dim_end_ignores_inhibitors :
    automaton.Reachable (fresh.handle ⟨300000000000, fun _ => false⟩ (.timeout none none)) ∧
      ¬ Vetoed (fresh.handle ⟨300000000000, fun _ => false⟩ (.timeout none none))
        (⟨330000000000, fun _ => false⟩,
          .timeout (some { blockInhibited := .ok "sleep:idle" }) none) := by
  refine ⟨reachable_handle (.init init_fresh) _ _, fun h => ?_⟩
  have hheld : WhileHeld (.timeout (some { blockInhibited := .ok "sleep:idle" }) none) :=
    .inl ⟨"sleep:idle", rfl, by decide⟩
  have hblank := h hheld (blanks_of_dim rfl (by rfl))
  contradiction

end Machine

end GamescopeIdle
