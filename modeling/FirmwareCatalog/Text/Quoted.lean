/-
**Quoted texts.**

Error messages show a foreign text between double quotes, so that its ends can be seen and no
character of it is invisible.  The quote and the backslash are escaped by a backslash, NUL, tab,
line feed and carriage return have letters of their own, and every other character that cannot be
seen is written as its code point, `\u{…}`, in lower-case hexadecimal without padding.

Main definitions:

* `Text.escapeChar` — one character of a quoted text;
* `Text.quoted` — a text between double quotes.
-/
import FirmwareCatalog.Text.Unseen

set_option relaxedAutoImplicit false
set_option autoImplicit false

namespace FirmwareCatalog.Text

/-- One character as a quoted text writes it. -/
def escapeChar (c : Char) : List Char :=
  if c = '"' then ['\\', '"']
  else if c = '\\' then ['\\', '\\']
  else if c = '\t' then ['\\', 't']
  else if c = '\r' then ['\\', 'r']
  else if c = '\n' then ['\\', 'n']
  else if c.toNat = 0 then ['\\', '0']
  else if isUnseen c then ['\\', 'u', '\x7b'] ++ Nat.toDigits 16 c.toNat ++ ['\x7d']
  else [c]

/-- The text between double quotes, with its characters escaped. -/
def quoted (s : List Char) : List Char := '"' :: s.flatMap escapeChar ++ ['"']

def quotedString (s : String) : String := String.ofList (quoted s.toList)

end FirmwareCatalog.Text
