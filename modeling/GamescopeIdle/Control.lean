/-!
# GamescopeIdle.Control

The line protocol of the control socket (`control.rs`): the state a `status`
request prints, the commands, and how a received line is parsed.

`Command.parse_asStr` is the protocol's round trip: the line `send` writes for a
command is parsed back to that command.
-/

namespace GamescopeIdle

/-- The blanking state the daemon is in. -/
inductive State where
  | active
  | dim
  | black
deriving DecidableEq, Repr

namespace State

/-- `Display for State`. -/
def toString : State → String
  | active => "active"
  | dim => "dim"
  | black => "black"

end State

/-- A command sent from a control client to the daemon. -/
inductive Command where
  | blank
  | wake
  | status
deriving DecidableEq, Repr

/-- `char::is_whitespace`: the Unicode property `White_Space`. -/
def isWhitespace (c : Char) : Bool :=
  (0x09 ≤ c.toNat && c.toNat ≤ 0x0D) || (0x2000 ≤ c.toNat && c.toNat ≤ 0x200A) ||
    [0x20, 0x85, 0xA0, 0x1680, 0x2028, 0x2029, 0x202F, 0x205F, 0x3000].contains c.toNat

/-- `str::trim`. -/
def trim (s : String) : String :=
  .ofList (((s.toList.dropWhile isWhitespace).reverse.dropWhile isWhitespace).reverse)

/-- There is nothing to trim where nothing is white space. -/
theorem trim_ofList {l : List Char} (h : ∀ c ∈ l, isWhitespace c = false) :
    trim (.ofList l) = .ofList l := by
  have hkept : ∀ l : List Char, (∀ c ∈ l, isWhitespace c = false) →
      l.dropWhile isWhitespace = l := by
    intro l hl
    cases l with
    | nil => rfl
    | cons c l => exact List.dropWhile_cons_of_neg (by simp [hl c])
  have hback : ∀ c ∈ l.reverse, isWhitespace c = false := fun c hc => h c (List.mem_reverse.mp hc)
  rw [trim, String.toList_ofList, hkept l h, hkept l.reverse hback, List.reverse_reverse]

namespace Command

/-- `Command::as_str`. -/
def asStr : Command → String
  | blank => "blank"
  | wake => "wake"
  | status => "status"

/-- `Command::parse`. -/
def parse (s : String) : Option Command :=
  match trim s with
  | "blank" => some .blank
  | "wake" => some .wake
  | "status" => some .status
  | _ => none

/-- The line `send` writes for a command parses back to the command. -/
theorem parse_asStr (c : Command) : parse (c.asStr ++ "\n") = some c := by
  cases c <;> decide

end Command

end GamescopeIdle
