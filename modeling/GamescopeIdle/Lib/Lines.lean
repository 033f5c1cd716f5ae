/-!
# Lib.Lines

Texts made of lines: records between separators, of which a reader takes the first
that it understands.

* `findSome_records` — such a reader finds what was written, whatever the other
  records are, as long as none before it is understood.
-/

universe u v

namespace Lines

variable {α : Type u} {β : Type v}

/-- The records, one after the other. -/
def text (sep : α) (records : List (List α)) : List α := [sep].intercalate records

variable [BEq α] [LawfulBEq α] {sep : α} {before after : List (List α)} {record : List α}

/-- The text has the records it was written with. -/
theorem splitOn_text (hbefore : ∀ l ∈ before, sep ∉ l) (hrecord : sep ∉ record)
    (hafter : ∀ l ∈ after, sep ∉ l) :
    (text sep (before ++ record :: after)).splitOn sep = before ++ record :: after := by
  refine List.splitOn_intercalate sep ?_ (by simp)
  intro l hl
  cases List.mem_append.mp hl with
  | inl hl => exact hbefore l hl
  | inr hl =>
      cases List.mem_cons.mp hl with
      | inl heq =>
          subst heq
          exact hrecord
      | inr hl => exact hafter l hl

/-- **Round trip**: the first record that is understood is found. -/
theorem findSome_records {read : List α → Option β} {b : β} (hbefore : ∀ l ∈ before, sep ∉ l)
    (hrecord : sep ∉ record) (hafter : ∀ l ∈ after, sep ∉ l)
    (hfirst : ∀ l ∈ before, read l = none) (hread : read record = some b) :
    ((text sep (before ++ record :: after)).splitOn sep).findSome? read = some b := by
  rw [splitOn_text hbefore hrecord hafter, List.findSome?_append,
    List.findSome?_eq_none_iff.mpr hfirst, Option.none_or, List.findSome?_cons, hread]

end Lines
