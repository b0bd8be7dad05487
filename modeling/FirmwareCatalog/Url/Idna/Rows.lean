/-
**Tables of characters.**

The properties of characters that international host names depend on are kept as lines of text:
rows with commas between them, each a few hexadecimal numbers with a space between them.  Most rows give a
range of code points by its first and its last one.

Main definitions:

* `Rows.read` — the rows of such lines;
* `Rows.covers` — a character lies in one of the ranges;
* `Rows.value?` — what the range of a character is given as.
-/
import FirmwareCatalog.Text.Pieces

set_option relaxedAutoImplicit false
set_option autoImplicit false

namespace FirmwareCatalog.Rows

/-- The rows of one line; a row with something else than numbers in it counts as empty. -/
def readLine (line : String) : List (List Nat) :=
  (Text.splitAt ',' line.toList).map fun row =>
    ((Text.splitAt ' ' row).mapM (Text.ofDigits? 16)).getD []

/-- The rows of a table. -/
def read (lines : List String) : List (List Nat) := lines.flatMap readLine

/-- The character lies in one of the ranges. -/
def covers (rows : List (List Nat)) (c : Char) : Bool :=
  rows.any fun row =>
    match row with
    | first :: last :: _ => first ≤ c.toNat && c.toNat ≤ last
    | _ => false

/-- The number that stands behind the range of a character. -/
def value? (rows : List (List Nat)) (c : Char) : Option Nat :=
  rows.findSome? fun row =>
    match row with
    | [first, last, value] => if first ≤ c.toNat && c.toNat ≤ last then some value else none
    | _ => none

end FirmwareCatalog.Rows
