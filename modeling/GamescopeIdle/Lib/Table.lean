import Mathlib.Data.List.AList

/-!
# Lib.Table

Finite tables with one value per key, as Mathlib's association lists, with the
operations of a Rust `HashMap` that Mathlib does not have (`retain`, `values`,
`isEmpty`).  Every operation is described by what it does to `lookup`, so a
proof about a table never opens its list.
-/

universe u v

/-- A finite table: at most one value for each key. -/
abbrev Table (κ : Type u) (ν : Type v) := AList (fun _ : κ => ν)

namespace Table

variable {κ : Type u} {ν : Type v}

/-- `HashMap::retain`: keep the entries that `p` accepts. -/
def retain (p : κ → ν → Bool) (t : Table κ ν) : Table κ ν where
  entries := t.entries.filter fun e => p e.1 e.2
  nodupKeys := t.nodupKeys.sublist List.filter_sublist

/-- `HashMap::is_empty`. -/
def isEmpty (t : Table κ ν) : Bool := t.entries.isEmpty

/-- `HashMap::values`, in some order. -/
def values (t : Table κ ν) : List ν := t.entries.map Sigma.snd

variable [DecidableEq κ]

theorem lookup_insert (t : Table κ ν) (k a : κ) (b : ν) :
    (t.insert k b).lookup a = if a = k then some b else t.lookup a := by
  by_cases h : a = k
  · subst h
    rw [if_pos rfl, AList.lookup_insert]
  · rw [if_neg h, AList.lookup_insert_ne h]

theorem lookup_erase (t : Table κ ν) (k a : κ) :
    (t.erase k).lookup a = if a = k then none else t.lookup a := by
  by_cases h : a = k
  · subst h
    rw [if_pos rfl, AList.lookup_erase]
  · rw [if_neg h, AList.lookup_erase_ne h]

theorem lookup_erase_eq_some {t : Table κ ν} {k a : κ} {b : ν} :
    (t.erase k).lookup a = some b ↔ a ≠ k ∧ t.lookup a = some b := by
  rw [lookup_erase]
  split <;> simp [*]

theorem mem_lookup_retain (p : κ → ν → Bool) (t : Table κ ν) (a : κ) (b : ν) :
    (t.retain p).lookup a = some b ↔ t.lookup a = some b ∧ p a b = true := by
  have hmem (s : Table κ ν) : s.lookup a = some b ↔ (⟨a, b⟩ : Sigma fun _ : κ => ν) ∈ s.entries :=
    AList.mem_lookup_iff
  rw [hmem, hmem, retain, List.mem_filter]

/-- Erasing a key the table does not have changes nothing. -/
theorem erase_of_lookup_none {t : Table κ ν} {k : κ} (h : t.lookup k = none) : t.erase k = t := by
  apply AList.ext
  exact List.kerase_of_notMem_keys (AList.lookup_eq_none.mp h)

/-- A table is empty when no key has a value. -/
theorem isEmpty_eq_false_iff (t : Table κ ν) :
    t.isEmpty = false ↔ ∃ a b, t.lookup a = some b := by
  have hmem (a : κ) (b : ν) :
      t.lookup a = some b ↔ (⟨a, b⟩ : Sigma fun _ : κ => ν) ∈ t.entries := AList.mem_lookup_iff
  simp only [hmem, isEmpty]
  cases h : t.entries with
  | nil => simp
  | cons e es => exact iff_of_true rfl ⟨e.1, e.2, List.mem_cons_self⟩

end Table
