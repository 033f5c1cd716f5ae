import GamescopeIdle.Lib.History
import GamescopeIdle.Screensaver

/-!
# GamescopeIdle.Screensaver.Cookies

The cookie table against its purpose: an abstract ledger that only knows the
history of calls, in which an inhibitor is a call to `Inhibit` that has been
followed neither by an `UnInhibit` of its cookie nor by its sender's end
(`Unreleased`).

The counter has period 2³² - 1 (`cookieAfter_eq`), so cookies of fewer calls
apart differ.  As long as no inhibitor outlives a whole period (`NoneOutlives`),
the table is the ledger (`lookup_after_iff`).
-/

namespace GamescopeIdle.Screensaver

open History (Each Since)

/-! ## histories of operations -/

/-- An operation on the service's state. -/
inductive Op where
  | inhibit (app reason : String) (sender : Option String)
  | unInhibit (cookie : UInt32)
  | reap (name : String)
deriving DecidableEq, Repr

namespace Op

/-- It is a call to `Inhibit`. -/
def isInhibit : Op → Bool
  | inhibit _ _ _ => true
  | _ => false

/-- It releases the inhibitors with this cookie and sender. -/
def releases (cookie : UInt32) (sender : Option String) : Op → Bool
  | inhibit _ _ _ => false
  | unInhibit c => c == cookie
  | reap name => sender == some name

end Op

/-- One operation. -/
def State.apply (st : State) : Op → State
  | .inhibit app reason sender => (st.inhibit app reason sender).2
  | .unInhibit cookie => st.unInhibit cookie
  | .reap name => st.reap name

/-- The state that a history of operations leads to. -/
def after (ops : List Op) : State := ops.foldl State.apply .default

@[simp] theorem after_concat (ops : List Op) (op : Op) :
    after (ops ++ [op]) = (after ops).apply op := by
  simp [after]

/-- The cookie that the next call to `Inhibit` returns. -/
def cookieAfter (ops : List Op) : UInt32 := State.bumpCookie (after ops).nextCookie

theorem inhibit_fst (ops : List Op) (app reason : String) (sender : Option String) :
    ((after ops).inhibit app reason sender).1 = cookieAfter ops := rfl

/-- How many calls to `Inhibit` a history has. -/
def calls (ops : List Op) : Nat := ops.countP Op.isInhibit

@[simp] theorem calls_append (l₁ l₂ : List Op) : calls (l₁ ++ l₂) = calls l₁ + calls l₂ :=
  List.countP_append

@[simp] theorem calls_cons (op : Op) (ops : List Op) :
    calls (op :: ops) = calls ops + if op.isInhibit then 1 else 0 := List.countP_cons

@[simp] theorem calls_nil : calls [] = 0 := rfl

/-! ## the counter -/

/-- How many cookies there are: all of `u32` but zero. -/
def period : Nat := 4294967295

/-- The cookie of the call that `n` calls precede. -/
def cookieOf (n : Nat) : UInt32 := UInt32.ofNat (n % period + 1)

theorem toNat_cookieOf (n : Nat) : (cookieOf n).toNat = n % period + 1 := by
  have hlt : n % period < period := Nat.mod_lt n (by decide)
  simp only [cookieOf, UInt32.toNat_ofNat']
  unfold period at hlt ⊢
  omega

theorem cookieOf_ne_zero (n : Nat) : cookieOf n ≠ 0 := by
  intro h
  have hnat := congrArg UInt32.toNat h
  rw [toNat_cookieOf] at hnat
  simp at hnat

theorem cookieOf_injOn {i j : Nat} (hij : i < j) (hnear : j - i < period) :
    cookieOf i ≠ cookieOf j := by
  intro h
  have hnat := congrArg UInt32.toNat h
  rw [toNat_cookieOf, toNat_cookieOf] at hnat
  unfold period at hnear hnat
  omega

/-- The counter skips zero when it wraps around. -/
theorem bumpCookie_cookieOf (n : Nat) : State.bumpCookie (cookieOf n) = cookieOf (n + 1) := by
  have hlt : n % period < period := Nat.mod_lt n (by decide)
  have hstep : (cookieOf n + 1).toNat = (n % period + 2) % 4294967296 := by
    rw [UInt32.toNat_add, toNat_cookieOf]
    rfl
  have hnext : (cookieOf (n + 1)).toNat = (n + 1) % period + 1 := toNat_cookieOf (n + 1)
  unfold State.bumpCookie
  rw [← UInt32.toNat_inj, hnext]
  simp only [← UInt32.toNat_inj]
  unfold period at hlt hstep ⊢
  split
  · next hzero =>
      rw [hstep, UInt32.toNat_zero] at hzero
      rw [UInt32.toNat_one]
      omega
  · next hzero =>
      rw [hstep, UInt32.toNat_zero] at hzero
      rw [hstep]
      omega

theorem nextCookie_apply (st : State) (op : Op) :
    (st.apply op).nextCookie =
      if op.isInhibit then State.bumpCookie st.nextCookie else st.nextCookie := by
  cases op <;> rfl

/-- The next cookie depends only on how many calls there have been. -/
theorem cookieAfter_eq (ops : List Op) : cookieAfter ops = cookieOf (calls ops) := by
  induction ops using List.reverseRecOn with
  | nil => rfl
  | append_singleton ops op ih =>
      unfold cookieAfter
      rw [after_concat, nextCookie_apply, calls_append]
      cases hop : op.isInhibit with
      | true =>
          have hcalls : calls [op] = 1 := by simp [hop]
          rw [if_pos rfl, hcalls, ← bumpCookie_cookieOf, ← ih]
          rfl
      | false =>
          have hcalls : calls [op] = 0 := by simp [hop]
          rw [if_neg (by decide), hcalls, Nat.add_zero, ← ih]
          rfl

/-! ## the ledger -/

/-- The inhibitors of a history: an `Inhibit` that was given the cookie, and
nothing since that releases it. -/
def Unreleased (cookie : UInt32) (h : Holder) (ops : List Op) : Prop :=
  Since (fun past op => op = .inhibit h.app h.reason h.sender ∧ cookieAfter past = cookie)
    (fun op => op.releases cookie h.sender = false) ops

/-- No inhibitor stays live across a whole period of later calls. -/
def NoneOutlives (ops : List Op) : Prop :=
  ∀ pre app reason sender during post,
    ops = pre ++ .inhibit app reason sender :: (during ++ post) →
    (∀ op ∈ during, op.releases (cookieAfter pre) sender = false) → calls during < period

theorem NoneOutlives.of_append {ops rest : List Op} (h : NoneOutlives (ops ++ rest)) :
    NoneOutlives ops := by
  intro pre app reason sender during post hops hlive
  exact h pre app reason sender during (post ++ rest) (by simp [hops]) hlive

/-- The cookie of the next call is not in use. -/
theorem cookieAfter_fresh {ops : List Op} {app reason : String} {sender : Option String}
    (hnone : NoneOutlives (ops ++ [.inhibit app reason sender])) {cookie : UInt32} {h : Holder}
    (hlive : Unreleased cookie h ops) : cookieAfter ops ≠ cookie := by
  obtain ⟨pre, op, post, hops, ⟨hop, hcookie⟩, hkept⟩ := hlive
  subst hop
  have hduring : ∀ op ∈ post ++ [.inhibit app reason sender],
      op.releases (cookieAfter pre) h.sender = false := by
    intro op hop
    rw [hcookie]
    cases List.mem_append.mp hop with
    | inl hop => exact hkept op hop
    | inr hop => rw [List.mem_singleton.mp hop]; rfl
  have hnear := hnone pre h.app h.reason h.sender (post ++ [.inhibit app reason sender]) []
    (by simp [hops]) hduring
  have hcalls : calls ops = calls pre + 1 + calls post := by
    simp [hops, Op.isInhibit]
    omega
  have hthis : calls [Op.inhibit app reason sender] = 1 := rfl
  rw [calls_append, hthis] at hnear
  rw [← hcookie, cookieAfter_eq, cookieAfter_eq, ne_comm]
  exact cookieOf_injOn (by omega) (by omega)

/-! ## the table is the ledger -/

/-- What an operation does to the ledger. -/
theorem unreleased_concat {cookie : UInt32} {h : Holder} {ops : List Op} {op : Op} :
    Unreleased cookie h (ops ++ [op]) ↔
      (op = .inhibit h.app h.reason h.sender ∧ cookieAfter ops = cookie) ∨
        (Unreleased cookie h ops ∧ op.releases cookie h.sender = false) :=
  History.since_concat

theorem lookup_inhibit (ops : List Op) (app reason : String) (sender : Option String)
    (cookie : UInt32) :
    ((after ops).apply (.inhibit app reason sender)).holders.lookup cookie =
      if cookie = cookieAfter ops then some { app := app, reason := reason, sender := sender }
      else (after ops).holders.lookup cookie :=
  Table.lookup_insert _ _ _ _

theorem lookup_unInhibit (st : State) (c cookie : UInt32) :
    (st.apply (.unInhibit c)).holders.lookup cookie =
      if cookie = c then none else st.holders.lookup cookie :=
  Table.lookup_erase _ _ _

theorem lookup_reap (st : State) (name : String) (cookie : UInt32) (h : Holder) :
    (st.apply (.reap name)).holders.lookup cookie = some h ↔
      st.holders.lookup cookie = some h ∧ h.sender ≠ some name := by
  rw [← bne_iff_ne]
  exact Table.mem_lookup_retain _ _ _ _

/-- **Refinement**: the entries of the table are the inhibitors of the ledger. -/
theorem lookup_after_iff {ops : List Op} (hnone : NoneOutlives ops) (cookie : UInt32)
    (h : Holder) : (after ops).holders.lookup cookie = some h ↔ Unreleased cookie h ops := by
  induction ops using List.reverseRecOn with
  | nil => simp [after, State.default, Unreleased]
  | append_singleton ops op ih =>
      have ih' := ih hnone.of_append
      rw [after_concat, unreleased_concat, ← ih']
      cases op with
      | inhibit app reason sender =>
          rw [lookup_inhibit]
          by_cases hc : cookie = cookieAfter ops
          · have hfree : ¬ (after ops).holders.lookup cookie = some h := by
              intro hlive
              exact cookieAfter_fresh hnone (ih'.mp hlive) hc.symm
            cases h
            simp [hc.symm, hfree]
          · have hc' : ¬ cookieAfter ops = cookie := fun h => hc h.symm
            simp [hc, hc', Op.releases]
      | unInhibit c =>
          rw [lookup_unInhibit]
          by_cases hc : cookie = c
          · simp [hc, Op.releases]
          · have hc' : ¬ c = cookie := fun h => hc h.symm
            simp [hc, hc', Op.releases]
      | reap name =>
          rw [lookup_reap]
          simp [Op.releases]

/-- A call made while an inhibitor is live returns another cookie. -/
theorem cookieAfter_ne_of_before {ops pre pre' mid post' : List Op} {app app' reason reason' : String}
    {sender sender' : Option String} (hnone : NoneOutlives ops)
    (hops' : ops = pre' ++ .inhibit app' reason' sender' :: post')
    (hpre' : pre' = pre ++ .inhibit app reason sender :: mid)
    (hlive : ∀ op ∈ mid, op.releases (cookieAfter pre) sender = false) :
    cookieAfter pre ≠ cookieAfter pre' := by
  have hnone' : NoneOutlives (pre' ++ [.inhibit app' reason' sender']) := by
    have hsplit : ops = (pre' ++ [.inhibit app' reason' sender']) ++ post' := by simp [hops']
    rw [hsplit] at hnone
    exact hnone.of_append
  have hthis : Unreleased (cookieAfter pre) { app := app, reason := reason, sender := sender }
      pre' := ⟨pre, _, mid, hpre', ⟨rfl, rfl⟩, hlive⟩
  exact (cookieAfter_fresh hnone' hthis).symm

/-- Distinct inhibitors hold distinct cookies. -/
theorem unreleased_unique {ops pre pre' post post' : List Op} {app app' reason reason' : String}
    {sender sender' : Option String} (hnone : NoneOutlives ops)
    (hops : ops = pre ++ .inhibit app reason sender :: post)
    (hops' : ops = pre' ++ .inhibit app' reason' sender' :: post')
    (hlive : ∀ op ∈ post, op.releases (cookieAfter pre) sender = false)
    (hlive' : ∀ op ∈ post', op.releases (cookieAfter pre') sender' = false)
    (hcookie : cookieAfter pre = cookieAfter pre') : pre = pre' := by
  cases History.append_cons_cases (hops.symm.trans hops') with
  | inl hsame => exact hsame.1
  | inr hdistinct =>
      cases hdistinct with
      | inl hbefore =>
          obtain ⟨mid, hpre', hpost⟩ := hbefore
          have hmid : ∀ op ∈ mid, op.releases (cookieAfter pre) sender = false :=
            fun op hop => hlive op (by simp [hpost, hop])
          exact absurd hcookie (cookieAfter_ne_of_before hnone hops' hpre' hmid)
      | inr hafter =>
          obtain ⟨mid, hpre, hpost'⟩ := hafter
          have hmid : ∀ op ∈ mid, op.releases (cookieAfter pre') sender' = false :=
            fun op hop => hlive' op (by simp [hpost', hop])
          exact absurd hcookie.symm (cookieAfter_ne_of_before hnone hops hpre hmid)

/-! ## what each operation does -/

/-- What an operation does to the table, when `cookie` is the next cookie. -/
def Effect (cookie : UInt32) (before after : Table UInt32 Holder) : Op → Prop
  | .inhibit app reason sender =>
      before.lookup cookie = none ∧
        ∀ c, after.lookup c =
          if c = cookie then some { app := app, reason := reason, sender := sender }
          else before.lookup c
  | .unInhibit released =>
      (before.lookup released = none → after = before) ∧
        ∀ c, after.lookup c = if c = released then none else before.lookup c
  | .reap name =>
      ∀ c h, after.lookup c = some h ↔ before.lookup c = some h ∧ h.sender ≠ some name

theorem effect_apply {ops : List Op} {op : Op} (hnone : NoneOutlives (ops ++ [op])) :
    Effect (cookieAfter ops) (after ops).holders ((after ops).apply op).holders op := by
  cases op with
  | inhibit app reason sender =>
      constructor
      · cases hlookup : (after ops).holders.lookup (cookieAfter ops) with
        | none => rfl
        | some h =>
            have hlive := (lookup_after_iff hnone.of_append _ h).mp hlookup
            exact absurd rfl (cookieAfter_fresh hnone hlive)
      · exact lookup_inhibit ops app reason sender
  | unInhibit released =>
      constructor
      · exact Table.erase_of_lookup_none
      · exact lookup_unInhibit (after ops) released
  | reap name => exact lookup_reap (after ops) name

/-- The cookies of a history: never zero, and distinct for calls fewer than a
period apart. -/
def CookiesDistinct (ops : List Op) : Prop :=
  ∀ pre app reason sender post, ops = pre ++ .inhibit app reason sender :: post →
    ((after pre).inhibit app reason sender).1 ≠ 0 ∧
      ∀ mid app' reason' sender' post',
        post = mid ++ .inhibit app' reason' sender' :: post' → calls mid + 1 < period →
          ((after pre).inhibit app reason sender).1 ≠
            ((after (pre ++ .inhibit app reason sender :: mid)).inhibit app' reason' sender').1

/-- The table is exactly the set of inhibitors that have not been released. -/
structure TableIsLedger (ops : List Op) : Prop where
  /-- Each operation does to the table what it says. -/
  effects : Each (fun past op =>
    Effect (cookieAfter past) (after past).holders (after (past ++ [op])).holders op) ops
  /-- The entries are the inhibitors that have not been released. -/
  entries : ∀ cookie h, (after ops).holders.lookup cookie = some h ↔ Unreleased cookie h ops
  /-- Two of them never share a cookie. -/
  unique : ∀ pre pre' post post' app app' reason reason' sender sender',
    ops = pre ++ .inhibit app reason sender :: post →
    ops = pre' ++ .inhibit app' reason' sender' :: post' →
    (∀ op ∈ post, op.releases (cookieAfter pre) sender = false) →
    (∀ op ∈ post', op.releases (cookieAfter pre') sender' = false) →
    cookieAfter pre = cookieAfter pre' → pre = pre'
  /-- Blanking is inhibited while there is one. -/
  inhibited : (ScreenSaverWatch.mk (after ops)).inhibited = true ↔
    ∃ cookie h, Unreleased cookie h ops

theorem cookiesDistinct (ops : List Op) : CookiesDistinct ops := by
  intro pre app reason sender post _
  constructor
  · rw [inhibit_fst, cookieAfter_eq]
    exact cookieOf_ne_zero _
  · intro mid app' reason' sender' post' _ hnear
    rw [inhibit_fst, inhibit_fst, cookieAfter_eq, cookieAfter_eq]
    have hcalls : calls (pre ++ .inhibit app reason sender :: mid) = calls pre + (calls mid + 1) := by
      simp [Op.isInhibit]
    rw [hcalls]
    exact cookieOf_injOn (by omega) (by omega)

theorem tableIsLedger {ops : List Op} (hnone : NoneOutlives ops) : TableIsLedger ops where
  effects past op future hops := by
    simp only [after_concat]
    refine effect_apply ?_
    have hsplit : ops = (past ++ [op]) ++ future := by simp [hops]
    rw [hsplit] at hnone
    exact hnone.of_append
  entries := lookup_after_iff hnone
  unique _ _ _ _ _ _ _ _ _ _ hops hops' hlive hlive' hcookie :=
    unreleased_unique hnone hops hops' hlive hlive' hcookie
  inhibited := by
    rw [ScreenSaverWatch.inhibited_iff]
    simp only [lookup_after_iff hnone]

/-- **The cookie table is exactly the set of unreleased inhibitors**: for every
history, cookies are non-zero and distinct within a period; and when no
inhibitor outlives a period, the table is the ledger. -/
theorem cookie_table_is_ledger (ops : List Op) :
    CookiesDistinct ops ∧ (NoneOutlives ops → TableIsLedger ops) :=
  ⟨cookiesDistinct ops, tableIsLedger⟩

/-- A history shorter than a period has nothing that outlives one. -/
theorem noneOutlives_of_length {ops : List Op} (h : ops.length < period) : NoneOutlives ops := by
  intro pre app reason sender during post hops _
  have hcalls : calls during ≤ during.length := List.countP_le_length
  have hlength : during.length ≤ ops.length := by
    rw [hops]
    simp only [List.length_append, List.length_cons]
    omega
  omega

/-- Two clients take an inhibitor each, and one of them vanishes. -/
theorem cookie_table_is_ledger_example :
    TableIsLedger [.inhibit "mpv" "playing" (some ":1.5"), .inhibit "firefox" "video" (some ":1.9"),
      .unInhibit 7, .reap ":1.5"] :=
  (cookie_table_is_ledger _).2 (noneOutlives_of_length (by decide))

end GamescopeIdle.Screensaver
