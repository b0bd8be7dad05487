/-
**Blank characters.**

Unicode calls twenty-five characters white space.  Settings values, variable names and dates are
trimmed of exactly these, which is more than the four that JSON skips between its tokens and more
than the two that TOML does.

Main definitions:

* `Text.isBlank` — the Unicode property `White_Space`;
* `Text.trimStart`, `Text.trim` — a text without the blanks at its start, or at both ends.
-/

set_option relaxedAutoImplicit false
set_option autoImplicit false

namespace FirmwareCatalog.Text

/-- The character has the Unicode property `White_Space`. -/
def isBlank (c : Char) : Bool :=
  let n := c.toNat
  (9 ≤ n && n ≤ 13) || n == 0x20 || n == 0x85 || n == 0xA0 || n == 0x1680 ||
    (0x2000 ≤ n && n ≤ 0x200A) || n == 0x2028 || n == 0x2029 || n == 0x202F || n == 0x205F ||
    n == 0x3000

/-- The text from its first character that is not blank. -/
def trimStart (s : List Char) : List Char := s.dropWhile isBlank

def trimEnd (s : List Char) : List Char := (s.reverse.dropWhile isBlank).reverse

/-- The text without the blanks at its two ends. -/
def trim (s : List Char) : List Char := trimEnd (trimStart s)

end FirmwareCatalog.Text
