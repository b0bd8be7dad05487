/-
**Pieces of a text, and digits.**

A text is cut at every character of some kind; the pieces are what stands before, between and after
these characters, so there is always one piece more than there are cuts.  Bytes are cut in the same
way.

Main definitions:

* `Text.splitWhere`, `Text.splitAt` — the pieces of a text or of bytes;
* `Text.digitValue?`, `Text.ofDigits?` — the values of digits of a base up to sixteen.
-/

set_option relaxedAutoImplicit false
set_option autoImplicit false

namespace FirmwareCatalog.Text

/-- The pieces of a text, cut at the characters of some kind. -/
def splitWhere {α : Type} (cut : α → Bool) : List α → List (List α)
  | [] => [[]]
  | c :: rest =>
    match splitWhere cut rest with
    | [] => [[c]]
    | p :: ps => if cut c then [] :: p :: ps else (c :: p) :: ps

/-- The pieces of a text, cut at a character. -/
def splitAt {α : Type} [BEq α] (c : α) (s : List α) : List (List α) := splitWhere (· == c) s

/-- The value of a digit. -/
def digitValue? (c : Char) : Option Nat :=
  if '0' ≤ c ∧ c ≤ '9' then some (c.toNat - '0'.toNat)
  else if 'a' ≤ c ∧ c ≤ 'f' then some (c.toNat - 'a'.toNat + 10)
  else if 'A' ≤ c ∧ c ≤ 'F' then some (c.toNat - 'A'.toNat + 10)
  else none

/-- The value of digits of a base, if there is one at least and all are digits of that base. -/
def ofDigits? (base : Nat) (s : List Char) : Option Nat :=
  if s.isEmpty then none
  else
    s.foldlM
      (fun n c =>
        match digitValue? c with
        | some d => if d < base then some (n * base + d) else none
        | none => none)
      0

theorem splitWhere_ne_nil {α : Type} (cut : α → Bool) (s : List α) : splitWhere cut s ≠ [] := by
  cases s with
  | nil => simp [splitWhere]
  | cons c rest =>
    simp only [splitWhere]
    split
    · simp
    · split <;> simp

end FirmwareCatalog.Text
